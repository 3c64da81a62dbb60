/-!
# Numbers of 53 binary digits

A magnitude of the standard 64-bit format is `significand * 2 ^ exponent` with a
significand below `2 ^ 53` and an exponent between -1074 and 971. Every result of
a calculation is the exact quotient of two natural numbers, rounded once: to the
nearest magnitude, and half-way to the one with the even significand. A quotient
too large to be rounded to any of them has no result.

Signs are kept by whoever has a use for them.
-/

namespace Testbed.Decimal

structure Binary64 where
  significand : Nat
  exponent : Int
  deriving DecidableEq

/-- The natural number nearest to a quotient, the even one of two. -/
def roundQuotient (num den : Nat) : Nat :=
  let q := num / den
  let r := num % den
  if 2 * r < den then q
  else if den < 2 * r then q + 1
  else if q % 2 = 0 then q else q + 1

/-- A quotient divided by a power of two, as numerator and denominator. -/
def unscale (num den : Nat) (exponent : Int) : Nat × Nat :=
  if 0 ≤ exponent then (num, den * Nat.pow 2 exponent.toNat)
  else (num * Nat.pow 2 (-exponent).toNat, den)

namespace Binary64

def zero : Binary64 := ⟨0, -1074⟩

def minExponent : Int := -1074

def maxExponent : Int := 971

/-- The exponent for which the quotient has a significand of 53 digits, or the
least exponent if that is larger. -/
def exponentFor (num den : Nat) : Int :=
  let guess : Int := (num.log2 : Int) - (den.log2 : Int) - 52
  let scaled := unscale num den guess
  let exact := if scaled.1 < Nat.pow 2 52 * scaled.2 then guess - 1 else guess
  max exact minExponent

/-- The quotient as a magnitude of the format, if it is not too large. -/
def ofQuotient (num den : Nat) : Option Binary64 :=
  if num = 0 then some zero
  else
    let exponent := exponentFor num den
    let scaled := unscale num den exponent
    let significand := roundQuotient scaled.1 scaled.2
    let rounded : Binary64 :=
      if significand = Nat.pow 2 53 then ⟨Nat.pow 2 52, exponent + 1⟩ else ⟨significand, exponent⟩
    if maxExponent < rounded.exponent then none else some rounded

/-- The magnitude as a quotient. -/
def toQuotient (x : Binary64) : Nat × Nat :=
  if 0 ≤ x.exponent then (x.significand * Nat.pow 2 x.exponent.toNat, 1)
  else (x.significand, Nat.pow 2 (-x.exponent).toNat)

def mul (x y : Binary64) : Option Binary64 :=
  ofQuotient (x.toQuotient.1 * y.toQuotient.1) (x.toQuotient.2 * y.toQuotient.2)

def div (x y : Binary64) : Option Binary64 :=
  ofQuotient (x.toQuotient.1 * y.toQuotient.2) (x.toQuotient.2 * y.toQuotient.1)

end Binary64

example : Binary64.ofQuotient 1 1 = some ⟨2 ^ 52, -52⟩ := by decide
example : Binary64.ofQuotient 1 3 = some ⟨6004799503160661, -54⟩ := by decide
example : Binary64.ofQuotient (2 ^ 53 + 1) 1 = some ⟨2 ^ 52, 1⟩ := by decide

end Testbed.Decimal
