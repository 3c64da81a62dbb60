import Testbed.Except
import Testbed.Json.Failure

/-!
# Readers

A reader takes a value off the front of a text and returns it with the rest of
the text, or fails. That it takes something, and so leaves less than it was
given, is part of being a reader; repeated reading ends for no other reason.

The characters a text may have between its parts are the four blanks of the
format. They are dropped by whoever looks for the next part.
-/

namespace Testbed.Json

abbrev Reading := Except Failure

structure Reader (α : Type) where
  read : List Char → Reading (α × List Char)
  progress : ∀ {s x rest}, read s = .ok (x, rest) → rest.length < s.length

def isGap (c : Char) : Bool :=
  c = ' ' || c = '\n' || c = '\t' || c = '\r'

def dropGap (s : List Char) : List Char :=
  s.dropWhile isGap

theorem length_dropGap_le (s : List Char) : (dropGap s).length ≤ s.length :=
  (List.dropWhile_sublist _).length_le

@[simp]
theorem dropGap_cons_of_not_isGap {c : Char} (h : isGap c = false) (s : List Char) :
    dropGap (c :: s) = c :: s := by
  simp [dropGap, h]

/-- What is left in front of the next part is no blank. -/
theorem length_lt_of_dropGap_eq_cons {s rest : List Char} {c : Char}
    (h : dropGap s = c :: rest) : rest.length < s.length := by
  have := length_dropGap_le s
  rw [h] at this
  exact this

/-- The rest of the text behind these characters, the first of which is known to
be there. -/
def word : List Char → List Char → Reading (List Char)
  | [], s => .ok s
  | _ :: _, [] => .error (.behind .endInValue [])
  | w :: ws, c :: s => if c = w then word ws s else .error (.ahead 1 .expectedIdent (c :: s))

theorem length_le_of_word {ws s rest : List Char} (h : word ws s = .ok rest) :
    rest.length ≤ s.length := by
  fun_induction word ws s with
  | case1 => cases h; exact Nat.le_refl _
  | case2 => cases h
  | case3 _ _ _ ih => exact Nat.le_succ_of_le (ih h)
  | case4 => cases h

end Testbed.Json
