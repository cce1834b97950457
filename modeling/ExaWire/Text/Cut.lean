/-
ExaWire/Text/Cut.lean

Texts cut at a separator or a marker, over lists so that the same functions
serve characters and bytes.
-/

namespace ExaWire.Text

variable {α : Type} [DecidableEq α]

/-- What follows `lead` if the list starts with it. -/
def after? : List α → List α → Option (List α)
  | [], xs => some xs
  | _ :: _, [] => none
  | p :: ps, x :: xs => if p = x then after? ps xs else none

/-- The list before and after the first place where `marker` stands. -/
def cut? (marker : List α) : List α → Option (List α × List α)
  | [] => if marker.isEmpty then some ([], []) else none
  | x :: xs =>
    match after? marker (x :: xs) with
    | some rest => some ([], rest)
    | none => (cut? marker xs).map fun (before, rest) => (x :: before, rest)

/-- The parts between the places where a separator stands; there is always one. -/
def splitOn (sep : α) : List α → List (List α)
  | [] => [[]]
  | x :: xs =>
    if x = sep then [] :: splitOn sep xs
    else match splitOn sep xs with
      | [] => [[x]]
      | part :: parts => (x :: part) :: parts

/-- Every place where the two elements `a b` stand replaced by `new`, from left to
right. -/
def replacePair (a b : α) (new : List α) : List α → List α
  | [] => []
  | [x] => [x]
  | x :: y :: rest =>
    if x = a ∧ y = b then new ++ replacePair a b new rest
    else x :: replacePair a b new (y :: rest)

/-- Every element `a` replaced by `new`. -/
def replaceOne (a : α) (new : List α) (xs : List α) : List α :=
  xs.flatMap fun x => if x = a then new else [x]

/-- The first place where `old` stands replaced by `new`. -/
def replaceFirst (old new xs : List α) : List α :=
  match cut? old xs with
  | some (before, rest) => before ++ new ++ rest
  | none => xs

/-- The last element of every part joined by a separator. -/
def joinWith (sep : List α) : List (List α) → List α
  | [] => []
  | [part] => part
  | part :: parts => part ++ sep ++ joinWith sep parts

end ExaWire.Text
