import Testbed.Text.Blank
import Testbed.Text.DecimalDigit
import Testbed.Text.Lines
import Testbed.Topology.Basic

/-!
# Listings of namespaces

A machine lists its namespaces one to a line, and those that have a number say so
behind the name, as in `R1 (id: 3)`. Blanks around a line and lines with nothing
else mean nothing. Any other line is a sign that the listing is not what it was
taken for, and the first one of them is what reading it comes to.
-/

namespace Testbed.Listing

open Text

/-- The number some namespaces have, with the space that sets it off. -/
def isNumberNote : List Char → Bool
  | ' ' :: '(' :: 'i' :: 'd' :: ':' :: ' ' :: rest =>
    !(rest.takeWhile isDecimalDigit).isEmpty && rest.dropWhile isDecimalDigit = [')']
  | _ => false

/-- The name on a trimmed line. -/
def name? (line : List Char) : Option String :=
  let word := line.takeWhile (!isBlank ·)
  let rest := line.dropWhile (!isBlank ·)
  if word.isEmpty then none
  else if rest.isEmpty || isNumberNote rest then some (String.ofList word)
  else none

/-- The names on some lines, or the first line that is not of the form. -/
def ofLines : List (List Char) → Except String (List String)
  | [] => .ok []
  | line :: lines =>
    let line := trim line
    if line.isEmpty then ofLines lines
    else
      match name? line with
      | none => .error (String.ofList line)
      | some name => do
        let names ← ofLines lines
        return name :: names

def parse (listing : String) : Except String (List String) :=
  ofLines (lines listing.toList)

end Testbed.Listing

namespace Testbed.Topology

variable {t : Topology} {names : List String} {name : String}

/-- The first namespace of the topology that is among the existing ones. -/
def collision? (t : Topology) (existing : List String) : Option String :=
  t.namespaces.find? (· ∈ existing)

theorem collision?_eq_some_iff :
    t.collision? names = some name ↔
      name ∈ names ∧ ∃ before after, t.namespaces = before ++ name :: after ∧
        ∀ earlier ∈ before, earlier ∉ names := by
  simp only [collision?, List.find?_eq_some_iff_append, decide_eq_true_eq, Bool.not_eq_true',
    decide_eq_false_iff_not]

end Testbed.Topology
