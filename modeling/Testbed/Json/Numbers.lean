import Testbed.Json.Reader

/-!
# Numbers

No part of a topology is a number, but a number in the place of something else is
read to its end and shown in the message. It is shown as it was understood: a
whole number of 64 bits as such, and everything else as the nearest magnitude a
floating point number can have.

Reading keeps at most as many leading digits as fit into 64 bits and lets the
others count for their position only. The digits that were kept, the power of ten
and the division are rounded one after the other, so the result can be off by a
unit from the nearest magnitude to what was written. A magnitude beyond the
largest is a failure, one below the smallest is zero.

A skipped number has to have the right form and may be of any size.
-/

namespace Testbed.Json

open Decimal (Binary64)

def wordLimit : Nat := Nat.pow 2 64

/-- The leading digits of a text as long as the number they make, continued from
`value`, fits into a word; how many there were; and the rest. -/
def wordDigits (value count : Nat) : List Char → Nat × Nat × List Char
  | [] => (value, count, [])
  | c :: s =>
    let next := value * 10 + (c.toNat - '0'.toNat)
    if c.isDigit && next < wordLimit then wordDigits next (count + 1) s
    else (value, count, c :: s)

/-- A number without its sign: a whole number of some leading digits and a power of
ten. It is exact if nothing was said about fractions and powers, and all digits
were kept. -/
structure Magnitude where
  significand : Nat
  exponent : Int
  exact : Bool

def isDigitAhead : List Char → Bool
  | c :: _ => c.isDigit
  | [] => false

/-- The digits in front of the point. -/
def wholePart : List Char → Reading (Magnitude × List Char)
  | [] => .error (.behind .endInValue [])
  | c :: s =>
    if c = '0' then
      if isDigitAhead s then .error (.peeked .invalidNumber s) else .ok (⟨0, 0, true⟩, s)
    else if c.isDigit then
      let (significand, _, rest) := wordDigits 0 0 (c :: s)
      let dropped := rest.takeWhile Char.isDigit
      .ok (⟨significand, dropped.length, dropped.isEmpty⟩, rest.dropWhile Char.isDigit)
    else .error (.ahead 1 .invalidNumber (c :: s))

/-- A point and the digits behind it, if there is a point. -/
def fractionPart (m : Magnitude) : List Char → Reading (Magnitude × List Char)
  | '.' :: s =>
    if isDigitAhead s then
      let (significand, count, rest) := wordDigits m.significand 0 s
      .ok (⟨significand, m.exponent - count, false⟩, rest.dropWhile Char.isDigit)
    else .error (.peeked (if s.isEmpty then .endInValue else .invalidNumber) s)
  | s => .ok (m, s)

/-- Powers of ten from here on are not told apart. -/
def exponentLimit : Nat := Nat.pow 2 31

def signPart : List Char → Bool × List Char
  | '-' :: s => (true, s)
  | '+' :: s => (false, s)
  | s => (false, s)

/-- The digits of a power of ten, taken one by one until the power reaches the
limit. -/
def powerDigits (value : Nat) : List Char → Nat × List Char
  | [] => (value, [])
  | c :: s =>
    if c.isDigit && value < exponentLimit then
      powerDigits (value * 10 + (c.toNat - '0'.toNat)) s
    else (value, c :: s)

/-- A power of ten, if there is one. One at the limit makes every number zero or
too large. -/
def exponentPart (m : Magnitude) : List Char → Reading (Magnitude × List Char)
  | c :: s =>
    if c = 'e' || c = 'E' then
      let (negative, digits) := signPart s
      match digits with
      | [] => .error (.behind .endInValue [])
      | d :: _ =>
        if d.isDigit then
          let (power, rest) := powerDigits 0 digits
          if exponentLimit ≤ power then
            if m.significand ≠ 0 && !negative then .error (.behind .numberOutOfRange rest)
            else .ok (⟨0, 0, false⟩, rest.dropWhile Char.isDigit)
          else
            let signed : Int := if negative then -power else power
            .ok (⟨m.significand, m.exponent + signed, false⟩, rest)
        else .error (.ahead 1 .invalidNumber digits)
    else .ok (m, c :: s)
  | [] => .ok (m, [])

/-- The largest power of ten among the magnitudes. -/
def maxPower : Nat := 308

/-- Divides by a power of ten in steps that are magnitudes themselves. -/
def divideByPower (x : Binary64) (power : Nat) : Binary64 :=
  if power ≤ maxPower then divideOnce x power
  else if x.significand = 0 then x
  else divideByPower (divideOnce x maxPower) (power - maxPower)
termination_by power
decreasing_by
  have : 0 < maxPower := by decide
  omega
where
  divideOnce (x : Binary64) (power : Nat) : Binary64 :=
    ((Binary64.ofQuotient (Nat.pow 10 power) 1).bind x.div).getD .zero

/-- The floating point number nearest to the digits, brought to its power of ten. -/
def Magnitude.toFloat? (m : Magnitude) : Option Binary64 := do
  let x ← Binary64.ofQuotient m.significand 1
  if m.exponent < 0 then return divideByPower x m.exponent.natAbs
  else if m.exponent ≤ maxPower then
    let power ← Binary64.ofQuotient (Nat.pow 10 m.exponent.toNat) 1
    x.mul power
  else if x.significand = 0 then return x
  else none

/-- The smallest whole number of 64 bits, without its sign. -/
def negativeLimit : Nat := Nat.pow 2 63

/-- A number, given what follows its sign. -/
def number (negative : Bool) (s : List Char) : Reading (Number × List Char) := do
  let (m, rest) ← wholePart s
  let (m, rest) ← fractionPart m rest
  let (m, rest) ← exponentPart m rest
  if m.exact && !negative then return (.integer m.significand, rest)
  else if m.exact && m.significand ≠ 0 && m.significand ≤ negativeLimit then
    return (.integer (-m.significand), rest)
  else
    match m.toFloat? with
    | some x => return (.float negative x, rest)
    | none => .error (.behind .numberOutOfRange rest)

/-! ## Skipped numbers -/

def skipWhole : List Char → Reading (List Char)
  | [] => .error (.behind .invalidNumber [])
  | c :: s =>
    if c = '0' then
      if isDigitAhead s then .error (.peeked .invalidNumber s) else .ok s
    else if c.isDigit then .ok (s.dropWhile Char.isDigit)
    else .error (.ahead 1 .invalidNumber (c :: s))

def skipFraction : List Char → Reading (List Char)
  | '.' :: s =>
    if isDigitAhead s then .ok (s.dropWhile Char.isDigit) else .error (.peeked .invalidNumber s)
  | s => .ok s

def skipExponent : List Char → Reading (List Char)
  | c :: s =>
    if c = 'e' || c = 'E' then
      let digits := (signPart s).2
      if isDigitAhead digits then .ok (digits.dropWhile Char.isDigit)
      else .error (.ahead 1 .invalidNumber digits)
    else .ok (c :: s)
  | [] => .ok []

/-- What is left behind a number, given what follows its sign. -/
def skipNumber (s : List Char) : Reading (List Char) := do
  skipExponent (← skipFraction (← skipWhole s))

theorem length_dropWhile_isDigit_le (s : List Char) :
    (s.dropWhile Char.isDigit).length ≤ s.length :=
  (List.dropWhile_sublist _).length_le

theorem length_lt_of_skipWhole {s rest : List Char} (h : skipWhole s = .ok rest) :
    rest.length < s.length := by
  rw [skipWhole.eq_def] at h
  split at h
  · cases h
  next c s =>
    have := length_dropWhile_isDigit_le s
    simp only [List.length_cons]
    repeat' split at h
    all_goals cases h
    all_goals omega

theorem length_le_of_skipFraction {s rest : List Char} (h : skipFraction s = .ok rest) :
    rest.length ≤ s.length := by
  rw [skipFraction.eq_def] at h
  split at h
  next s =>
    have := length_dropWhile_isDigit_le s
    split at h
    · cases h
      simp only [List.length_cons]
      omega
    · cases h
  · cases h
    exact Nat.le_refl _

theorem length_signPart_le (s : List Char) : (signPart s).2.length ≤ s.length := by
  rw [signPart.eq_def]
  split <;> simp

theorem length_le_of_skipExponent {s rest : List Char} (h : skipExponent s = .ok rest) :
    rest.length ≤ s.length := by
  rw [skipExponent.eq_def] at h
  split at h
  next c s =>
    have := length_dropWhile_isDigit_le (signPart s).2
    have := length_signPart_le s
    dsimp only at h
    simp only [List.length_cons]
    split at h
    · split at h
      · cases h
        omega
      · cases h
    · cases h
      simp
  · cases h
    exact Nat.le_refl _

theorem length_lt_of_skipNumber {s rest : List Char} (h : skipNumber s = .ok rest) :
    rest.length < s.length := by
  obtain ⟨s₁, h₁, h⟩ := bind_eq_ok_iff.mp h
  obtain ⟨s₂, h₂, h⟩ := bind_eq_ok_iff.mp h
  have := length_lt_of_skipWhole h₁
  have := length_le_of_skipFraction h₂
  have := length_le_of_skipExponent h
  omega

end Testbed.Json
