/-
ExaWire/Hosts.lean

Host specifications: tokens between commas, each one host or a range such as
`node1..3`.

A token is a range if, less at most one final newline, it is `P D1 .. D2` with
digit runs `D1` and `D2` and a prefix `P` that is not empty and has no newline;
`D1` is the longest run before the dots that leaves such a prefix.  A range
stands for its hosts in ascending order, and one that runs downwards is refused.
-/
import ExaWire.Value.Coercion
import ExaWire.Text.Cut

namespace ExaWire.Hosts

open Text

/-- A range of hosts: `first` up to `last` behind a prefix. -/
structure Range where
  stem : List Char
  first : List Char
  last : List Char
deriving DecidableEq, Repr

/-- The value of a digit run; one that is too long has none. -/
def runValue (ds : List Char) : Attempt Nat := orBadValue (naturalOf? (ds.filterMap digitValue?))

/-- The digits at the end of a text and what stands before them. -/
def trailingDigits (cs : List Char) : List Char × List Char :=
  let (run, rest) := cs.reverse.span isDecimal
  (rest.reverse, run.reverse)

/-- A prefix and the number behind it: the number takes all digits at the end but
the first character of the text, and the prefix has no newline. -/
def stemAndFirst? (cs : List Char) : Option (List Char × List Char) :=
  match cs with
  | [] => none
  | c :: rest =>
    let (middle, run) := trailingDigits rest
    if run = [] ∨ (c :: middle).contains '\n' then none else some (c :: middle, run)

/-- The text without one newline at its end. -/
def dropFinalNewline (cs : List Char) : List Char :=
  if cs.getLast? = some '\n' then cs.dropLast else cs

/-- The range that a token stands for, if it is one. -/
def range? (token : List Char) : Option Range :=
  let (front, last) := trailingDigits (dropFinalNewline token)
  if last = [] then none
  else match front.reverse with
    | '.' :: '.' :: rest => (stemAndFirst? rest.reverse).map fun (stem, first) => ⟨stem, first, last⟩
    | _ => none

/-- A host of a range. -/
def Range.host (r : Range) (n : Nat) : String := String.ofList (r.stem ++ Nat.toDigits 10 n)

/-- The hosts that a token stands for. -/
def expand (token : List Char) : Attempt (List String) :=
  match range? token with
  | none => .ok [String.ofList token]
  | some r => do
    let low ← runValue r.first
    let high ← runValue r.last
    if high < low then .error (.hostRange (String.ofList token))
    else .ok ((List.range (high + 1 - low)).map fun i => r.host (low + i))

/-- The hosts of a specification, in order. -/
def resolve (spec : String) : Attempt (List String) := do
  let parts ← (splitOn ',' spec.toList).mapM expand
  .ok parts.flatten

end ExaWire.Hosts
