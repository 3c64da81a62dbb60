import Testbed.Json.Reader

/-!
# Strings and their escapes

Between the quotes a character stands for itself unless it is a quote, a
backslash or a control character. A backslash starts an escape: one more
character, or the letter `u` and four hexadecimal digits. Code points beyond four
digits are written as two escapes in a row, a leading and a trailing surrogate;
one of the two without the other stands for nothing and is refused.

A string that nobody wants the contents of is skipped. Its escapes have to have
the right form, but whether surrogates come in pairs is not looked at.
-/

namespace Testbed.Json

def hexDigit? (c : Char) : Option Nat :=
  if '0' ≤ c ∧ c ≤ '9' then some (c.toNat - '0'.toNat)
  else if 'a' ≤ c ∧ c ≤ 'f' then some (c.toNat - 'a'.toNat + 10)
  else if 'A' ≤ c ∧ c ≤ 'F' then some (c.toNat - 'A'.toNat + 10)
  else none

/-- Four hexadecimal digits. Anything else of at least four bytes is taken for a
wrong escape, and a shorter text for one that was cut off. -/
def hexQuad (s : List Char) : Reading (Nat × List Char) :=
  if Text.byteCount (s.take 4) < 4 then .error (.behind .endInString [])
  else
    match s with
    | a :: b :: c :: d :: rest =>
      match hexDigit? a, hexDigit? b, hexDigit? c, hexDigit? d with
      | some a, some b, some c, some d => .ok (((a * 16 + b) * 16 + c) * 16 + d, rest)
      | _, _, _, _ => .error (.ahead 4 .invalidEscape s)
    | _ => .error (.ahead 4 .invalidEscape s)

theorem length_lt_of_hexQuad {s rest : List Char} {n : Nat} (h : hexQuad s = .ok (n, rest)) :
    rest.length < s.length := by
  unfold hexQuad at h
  split at h
  · cases h
  · split at h
    · split at h
      · cases h
        simp only [List.length_cons]
        omega
      · cases h
    · cases h

def isTrailingSurrogate (n : Nat) : Bool :=
  0xDC00 ≤ n && n ≤ 0xDFFF

def isLeadingSurrogate (n : Nat) : Bool :=
  0xD800 ≤ n && n ≤ 0xDBFF

/-- The code point that two surrogates stand for. -/
def joinSurrogates (leading trailing : Nat) : Nat :=
  (leading - 0xD800) * 0x400 + (trailing - 0xDC00) + 0x10000

/-- A character without which the second of two escapes is cut short. -/
def continued (c : Char) : List Char → Reading (List Char)
  | [] => .error (.behind .endInString [])
  | d :: s => if d = c then .ok s else .error (.ahead 1 .escapeCutShort (d :: s))

/-- The second of two escapes, given the first, a leading surrogate. -/
def trailingEscape (leading : Nat) (s : List Char) : Reading (Char × List Char) := do
  let s ← continued '\\' s
  let s ← continued 'u' s
  let (n, rest) ← hexQuad s
  if isTrailingSurrogate n then .ok (Char.ofNat (joinSurrogates leading n), rest)
  else .error (.behind .loneSurrogate rest)

/-- What follows the letter `u`. -/
def codePointEscape (s : List Char) : Reading (Char × List Char) := do
  let (n, rest) ← hexQuad s
  if isTrailingSurrogate n then .error (.behind .loneSurrogate rest)
  else if isLeadingSurrogate n then trailingEscape n rest
  else .ok (Char.ofNat n, rest)

/-- The character an escape of one letter stands for. -/
def shortEscape? : Char → Option Char
  | '"' => some '"'
  | '\\' => some '\\'
  | '/' => some '/'
  | 'b' => some '\x08'
  | 'f' => some '\x0c'
  | 'n' => some '\n'
  | 'r' => some '\r'
  | 't' => some '\t'
  | _ => none

/-- What follows a backslash. -/
def escape : List Char → Reading (Char × List Char)
  | [] => .error (.behind .endInString [])
  | 'u' :: s => codePointEscape s
  | c :: s =>
    match shortEscape? c with
    | some d => .ok (d, s)
    | none => .error (.ahead 1 .invalidEscape (c :: s))

theorem length_lt_of_continued {c : Char} {s rest : List Char} (h : continued c s = .ok rest) :
    rest.length < s.length := by
  rw [continued.eq_def] at h
  split at h
  · cases h
  · split at h
    · cases h
      exact Nat.lt_succ_self _
    · cases h

theorem length_lt_of_trailingEscape {n : Nat} {s rest : List Char} {c : Char}
    (h : trailingEscape n s = .ok (c, rest)) : rest.length < s.length := by
  obtain ⟨s₁, h₁, h⟩ := bind_eq_ok_iff.mp h
  obtain ⟨s₂, h₂, h⟩ := bind_eq_ok_iff.mp h
  obtain ⟨⟨m, rest'⟩, h₃, h⟩ := bind_eq_ok_iff.mp h
  have := length_lt_of_continued h₁
  have := length_lt_of_continued h₂
  have := length_lt_of_hexQuad h₃
  dsimp only at h
  split at h
  · simp only [Except.ok.injEq, Prod.mk.injEq] at h
    obtain ⟨-, rfl⟩ := h
    omega
  · cases h

theorem length_lt_of_codePointEscape {s rest : List Char} {c : Char}
    (h : codePointEscape s = .ok (c, rest)) : rest.length < s.length := by
  obtain ⟨⟨n, rest'⟩, h₁, h⟩ := bind_eq_ok_iff.mp h
  have := length_lt_of_hexQuad h₁
  dsimp only at h
  split at h
  · cases h
  · split at h
    · have := length_lt_of_trailingEscape h
      omega
    · simp only [Except.ok.injEq, Prod.mk.injEq] at h
      obtain ⟨-, rfl⟩ := h
      exact this

theorem length_lt_of_escape {s rest : List Char} {c : Char} (h : escape s = .ok (c, rest)) :
    rest.length < s.length := by
  rw [escape.eq_def] at h
  split at h
  · cases h
  · exact Nat.lt_succ_of_lt (length_lt_of_codePointEscape h)
  · split at h
    · cases h
      exact Nat.lt_succ_self _
    · cases h

/-- The rest of a string, up to and with its closing quote. The characters so far
are kept in reverse. -/
def stringRest (soFar : List Char) (s : List Char) : Reading (String × List Char) :=
  match s with
  | [] => .error (.behind .endInString [])
  | '"' :: rest => .ok (String.ofList soFar.reverse, rest)
  | '\\' :: rest =>
    match h : escape rest with
    | .error e => .error e
    | .ok (c, rest') =>
      have : rest'.length < rest.length := length_lt_of_escape h
      stringRest (c :: soFar) rest'
  | c :: rest =>
    if c < ' ' then .error (.ahead 1 .controlCharacter (c :: rest))
    else stringRest (c :: soFar) rest
termination_by s.length

theorem length_lt_of_stringRest {soFar s rest : List Char} {x : String}
    (h : stringRest soFar s = .ok (x, rest)) : rest.length < s.length := by
  fun_induction stringRest soFar s with
  | case1 => cases h
  | case2 => cases h; exact Nat.lt_succ_self _
  | case3 => cases h
  | case4 _ _ _ _ hesc _ ih =>
      have := ih h
      have := length_lt_of_escape hesc
      simp only [List.length_cons]
      omega
  | case5 => cases h
  | case6 _ _ _ _ _ _ ih => exact Nat.lt_succ_of_lt (ih h)

/-! ## Skipped strings -/

/-- What is left behind an escape, given what follows its backslash. -/
def skipEscape : List Char → Reading (List Char)
  | [] => .error (.behind .endInString [])
  | 'u' :: s => (hexQuad s).map (·.2)
  | c :: s =>
    match shortEscape? c with
    | some _ => .ok s
    | none => .error (.ahead 1 .invalidEscape (c :: s))

theorem length_lt_of_skipEscape {s rest : List Char} (h : skipEscape s = .ok rest) :
    rest.length < s.length := by
  rw [skipEscape.eq_def] at h
  split at h
  · cases h
  next s =>
    cases hq : hexQuad s with
    | error e => rw [hq] at h; cases h
    | ok x =>
        rw [hq] at h
        cases h
        exact Nat.lt_succ_of_lt (length_lt_of_hexQuad hq)
  · split at h
    · cases h
      exact Nat.lt_succ_self _
    · cases h

/-- What is left behind a string, given what follows its opening quote. -/
def skipString (s : List Char) : Reading (List Char) :=
  match s with
  | [] => .error (.behind .endInString [])
  | '"' :: rest => .ok rest
  | '\\' :: rest =>
    match h : skipEscape rest with
    | .error e => .error e
    | .ok rest' =>
      have : rest'.length < rest.length := length_lt_of_skipEscape h
      skipString rest'
  | c :: rest =>
    if c < ' ' then .error (.behind .controlCharacter (c :: rest)) else skipString rest
termination_by s.length

theorem length_lt_of_skipString {s rest : List Char} (h : skipString s = .ok rest) :
    rest.length < s.length := by
  fun_induction skipString s with
  | case1 => cases h
  | case2 => cases h; exact Nat.lt_succ_self _
  | case3 => cases h
  | case4 _ _ hesc _ ih =>
      have := ih h
      have := length_lt_of_skipEscape hesc
      simp only [List.length_cons]
      omega
  | case5 => cases h
  | case6 _ _ _ _ _ ih => exact Nat.lt_succ_of_lt (ih h)

end Testbed.Json
