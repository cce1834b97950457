/-
ExaWire/Proofs/Text/Pattern.lean

Texts of one pattern.

A pattern is made of marks, which every text of it has at the same place, and of numbers, each
padded to a width of its own.  Two things follow when all numbers fit: each of them stands at
a place that depends on the pattern alone, from which it is read back (`numberAt?_render`), and
the texts are in the order of their numbers, of which the first one that differs decides
(`render_lt_render_iff`).

Both are shown piece by piece.  The first needs to know how long the pieces in front are, the
second that corresponding pieces have one length.
-/
import ExaWire.Proofs.Number.Order

namespace ExaWire

/-! ### Patterns -/

/-- A piece of a pattern: a mark, or a number of what is written. -/
inductive Piece (α : Type)
  | mark (c : Char)
  | number (width : ℕ) (value : α → ℕ)

/-- A place for a number: where it begins, how wide it is, and which number stands there. -/
structure Place (α : Type) where
  start : ℕ
  width : ℕ
  value : α → ℕ

namespace Piece

variable {α : Type}

/-- A piece as text. -/
def text (a : α) : Piece α → List Char
  | mark c => [c]
  | number width value => padded width (value a)

/-- How many characters a piece is meant to take. -/
def width : Piece α → ℕ
  | mark _ => 1
  | number width _ => width

/-- The number of a piece, if it is one, has no more digits than its width allows. -/
def Fits (a : α) : Piece α → Prop
  | mark _ => True
  | number width value => 0 < width ∧ value a < 10 ^ width

theorem length_text {a : α} {p : Piece α} (fits : p.Fits a) : (p.text a).length = p.width := by
  cases p with
  | mark c => rfl
  | number width value => exact length_padded fits.1 fits.2

end Piece

namespace Pattern

variable {α : Type} {a b : α} {ps : List (Piece α)}

/-- The text of a pattern. -/
def render (ps : List (Piece α)) (a : α) : List Char := ps.flatMap (Piece.text a)

/-- How many characters the texts of a pattern have. -/
def width : List (Piece α) → ℕ
  | [] => 0
  | p :: ps => p.width + width ps

theorem length_render (fits : ∀ p ∈ ps, p.Fits a) : (render ps a).length = width ps := by
  induction ps with
  | nil => rfl
  | cons p ps ih =>
    obtain ⟨fit, others⟩ := List.forall_mem_cons.1 fits
    show (p.text a ++ render ps a).length = p.width + width ps
    rw [List.length_append, Piece.length_text fit, ih others]

/-- The places of the numbers of a pattern that begins somewhere in a text. -/
def places (start : ℕ) : List (Piece α) → List (Place α)
  | [] => []
  | .mark _ :: ps => places (start + 1) ps
  | .number width value :: ps => ⟨start, width, value⟩ :: places (start + width) ps

/-- The number whose digits stand somewhere in a text. -/
def numberAt? (start width : ℕ) (cs : List Char) : Option ℕ :=
  let field := (cs.drop start).take width
  if field.length = width && field.all Char.isDigit then some (Nat.ofDigitChars 10 field 0)
  else none

/-- A number that fits is read back between whatever is in front of it and behind it. -/
theorem numberAt?_padded {width n : ℕ} (wide : 0 < width) (fits : n < 10 ^ width)
    (before behind : List Char) :
    numberAt? before.length width (before ++ (padded width n ++ behind)) = some n := by
  have long : (padded width n).length = width := length_padded wide fits
  have field : ((before ++ (padded width n ++ behind)).drop before.length).take width =
      padded width n := by
    rw [List.drop_left, List.take_left' long]
  have digits : (padded width n).all Char.isDigit = true :=
    List.all_eq_true.2 fun _ => isDigit_of_mem_padded
  unfold numberAt?
  dsimp only
  rw [field, long, digits, decide_eq_true rfl, Bool.and_true, if_pos rfl, ofDigitChars_padded]

/-- Every number is read back from its place. -/
theorem numberAt?_render (fits : ∀ p ∈ ps, p.Fits a) (before : List Char) {q : Place α}
    (h : q ∈ places before.length ps) :
    numberAt? q.start q.width (before ++ render ps a) = some (q.value a) := by
  induction ps generalizing before with
  | nil => cases h
  | cons p ps ih =>
    obtain ⟨fit, others⟩ := List.forall_mem_cons.1 fits
    -- the text of this piece is in front of the pieces that follow
    have rest := ih others (before ++ p.text a)
    rw [List.append_assoc] at rest
    show numberAt? q.start q.width (before ++ (p.text a ++ render ps a)) = some (q.value a)
    cases p with
    | mark c => exact rest (by rwa [List.length_append])
    | number width value =>
      rcases List.mem_cons.1 h with rfl | later
      · exact numberAt?_padded fit.1 fit.2 before (render ps a)
      · refine rest ?_
        rw [List.length_append, Piece.length_text fit]
        exact later

/-- Texts of one pattern are in the order of their numbers. -/
theorem render_lt_render_iff (fitsa : ∀ p ∈ ps, p.Fits a) (fitsb : ∀ p ∈ ps, p.Fits b)
    (start : ℕ) : render ps a < render ps b ↔
      (places start ps).map (·.value a) < (places start ps).map (·.value b) := by
  induction ps generalizing start with
  | nil => exact iff_of_false (List.not_lt_nil _) (List.not_lt_nil _)
  | cons p ps ih =>
    obtain ⟨fita, othersa⟩ := List.forall_mem_cons.1 fitsa
    obtain ⟨fitb, othersb⟩ := List.forall_mem_cons.1 fitsb
    have rest := ih othersa othersb
    cases p with
    | mark c =>
      show c :: render ps a < c :: render ps b ↔ _
      rw [List.cons_lt_cons_self]
      exact rest (start + 1)
    | number width value =>
      have same : (padded width (value a)).length = (padded width (value b)).length :=
        (length_padded fita.1 fita.2).trans (length_padded fitb.1 fitb.2).symm
      show padded width (value a) ++ render ps a < padded width (value b) ++ render ps b ↔ _
      rw [append_lt_append_iff same, padded_lt_padded_iff fita.1 fita.2 fitb.2, padded_inj,
        rest (start + width), places, List.map_cons, List.map_cons, List.cons_lt_cons_iff]

end Pattern

end ExaWire
