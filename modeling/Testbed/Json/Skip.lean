import Testbed.Json.Numbers
import Testbed.Json.Strings

/-!
# Skipping values

The value of a member that means nothing is skipped. It has to be a value all the
same, so skipping walks through it and fails where it is malformed, but builds
nothing. How deep it is nested does not matter: the containers that are open are
kept in a list, and the walk is one loop over the text.

`Stage` says what the loop looks for. Behind an opening bracket a closing one may
follow at once; behind a value a comma or a closing bracket has to follow; behind
a comma there has to be a value, which is why a comma in front of a closing
bracket is noticed as a missing value or, in an object, as a missing key.
-/

namespace Testbed.Json

inductive Container where
  | list
  | object
  deriving DecidableEq

namespace Container

def closing : Container → Char
  | list => ']'
  | object => '}'

/-- The text ended inside. -/
def cutOff : Container → Cause
  | list => .endInList
  | object => .endInObject

/-- Neither a comma nor the closing bracket followed a value. -/
def notContinued : Container → Cause
  | list => .expectedListEnd
  | object => .expectedObjectEnd

end Container

inductive Stage where
  | value
  | opened
  | closed
  deriving DecidableEq

/-- What is left behind a value that is no container, the blanks in front of it
having been dropped. -/
def skipScalar : List Char → Reading (List Char)
  | 'n' :: s => word ['u', 'l', 'l'] s
  | 't' :: s => word ['r', 'u', 'e'] s
  | 'f' :: s => word ['a', 'l', 's', 'e'] s
  | '"' :: s => skipString s
  | '-' :: s => skipNumber s
  | s =>
    if isDigitAhead s then skipNumber s
    else .error (.peeked (if s.isEmpty then .endInValue else .expectedValue) s)

/-- What is left behind the colon after a key. -/
def skipColon (s : List Char) : Reading (List Char) :=
  match dropGap s with
  | ':' :: rest => .ok rest
  | [] => .error (.peeked .endInObject [])
  | rest => .error (.peeked .expectedColon rest)

/-- What is left behind a key and its colon. -/
def skipKey (s : List Char) : Reading (List Char) :=
  match dropGap s with
  | '"' :: rest => do skipColon (← skipString rest)
  | [] => .error (.peeked .endInObject [])
  | rest => .error (.peeked .keyNotString rest)

/-- What is left behind the key that a value in this container needs. -/
def skipLabel : Container → List Char → Reading (List Char)
  | .list, s => .ok s
  | .object, s => skipKey s

theorem length_lt_of_skipScalar {s rest : List Char} (h : skipScalar s = .ok rest) :
    rest.length < s.length := by
  rw [skipScalar.eq_def] at h
  split at h
  iterate 3 exact Nat.lt_succ_of_le (length_le_of_word h)
  · exact Nat.lt_succ_of_lt (length_lt_of_skipString h)
  · exact Nat.lt_succ_of_lt (length_lt_of_skipNumber h)
  · split at h
    · exact length_lt_of_skipNumber h
    · cases h

theorem length_lt_of_skipColon {s rest : List Char} (h : skipColon s = .ok rest) :
    rest.length < s.length := by
  unfold skipColon at h
  split at h
  next hs => cases h; exact length_lt_of_dropGap_eq_cons hs
  all_goals cases h

theorem length_lt_of_skipKey {s rest : List Char} (h : skipKey s = .ok rest) :
    rest.length < s.length := by
  unfold skipKey at h
  split at h
  next hs =>
    obtain ⟨s', h₁, h₂⟩ := bind_eq_ok_iff.mp h
    have := length_lt_of_dropGap_eq_cons hs
    have := length_lt_of_skipString h₁
    have := length_lt_of_skipColon h₂
    omega
  all_goals cases h

theorem length_le_of_skipLabel {container : Container} {s rest : List Char}
    (h : skipLabel container s = .ok rest) : rest.length ≤ s.length := by
  cases container with
  | list => cases h; exact Nat.le_refl _
  | object => exact Nat.le_of_lt (length_lt_of_skipKey h)

/-- What is left behind the value that is being skipped, of which the given
containers are open, the innermost first. -/
def skip (stage : Stage) (openContainers : List Container) (s : List Char) :
    Reading (List Char) :=
  match stage, openContainers with
  | .closed, [] => .ok s
  | .closed, top :: below =>
    match h : dropGap s with
    | [] => .error (.peeked top.cutOff [])
    | c :: rest =>
      have := length_lt_of_dropGap_eq_cons h
      if c = ',' then
        match h' : skipLabel top rest with
        | .error e => .error e
        | .ok rest' =>
          have := length_le_of_skipLabel h'
          skip .value (top :: below) rest'
      else if c = top.closing then skip .closed below rest
      else .error (.peeked top.notContinued (c :: rest))
  | .opened, [] => .ok s
  | .opened, top :: below =>
    match h : dropGap s with
    | [] => .error (.peeked top.cutOff [])
    | c :: rest =>
      have := length_lt_of_dropGap_eq_cons h
      if c = top.closing then skip .closed below rest
      else
        match h' : skipLabel top (c :: rest) with
        | .error e => .error e
        | .ok rest' =>
          have := length_le_of_skipLabel h'
          have : (c :: rest).length ≤ s.length := h ▸ length_dropGap_le s
          skip .value (top :: below) rest'
  | .value, openContainers =>
    match h : dropGap s with
    | [] => .error (.peeked .endInValue [])
    | c :: rest =>
      have := length_lt_of_dropGap_eq_cons h
      if c = '[' then skip .opened (.list :: openContainers) rest
      else if c = '{' then skip .opened (.object :: openContainers) rest
      else
        match h' : skipScalar (c :: rest) with
        | .error e => .error e
        | .ok rest' =>
          have := length_lt_of_skipScalar h'
          have : (c :: rest).length ≤ s.length := h ▸ length_dropGap_le s
          skip .closed openContainers rest'
termination_by (s.length, if stage = .opened then 1 else 0)
decreasing_by
  all_goals simp only [List.length_cons, Prod.lex_def] at *
  all_goals simp
  all_goals omega

theorem length_le_of_skip {stage : Stage} {openContainers : List Container} {s rest : List Char}
    (h : skip stage openContainers s = .ok rest) : rest.length ≤ s.length := by
  fun_induction skip stage openContainers s <;> grind

/-- What is left behind a value. -/
def skipValue (s : List Char) : Reading (List Char) :=
  skip .value [] s

end Testbed.Json
