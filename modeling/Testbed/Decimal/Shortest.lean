import Testbed.Decimal.Binary64

/-!
# The shortest decimal that stands for a binary magnitude

A decimal stands for the magnitude it rounds to. All that round to one magnitude
lie in an interval around it, which reaches half-way to both neighbours and
includes its ends if the significand is even. Of the grids of multiples of a
power of ten, the coarsest one with a point in the interval has the decimals with
the fewest digits, and if it has several such points one of the two around the
magnitude is the nearest. The search below therefore goes from coarse to fine and
looks at two points on each grid.

How the digits are then laid out is decided in `Layout`, apart from finding them.
-/

namespace Testbed.Decimal

/-- Digits and the power of ten their last one stands for. -/
structure Digits where
  value : Nat
  exponent : Int
  deriving DecidableEq

namespace Binary64

/-- The interval of a magnitude in quarters of the unit of its significand. The
neighbour below is only half as far when the significand is the least one of its
exponent. -/
def interval (x : Binary64) : Nat × Nat :=
  let m := 4 * x.significand
  if x.significand = Nat.pow 2 52 ∧ minExponent < x.exponent then (m - 1, m + 2)
  else (m - 2, m + 2)

/-- The nearer of the two multiples of a power of ten around the magnitude, if
one of them lies in the interval. -/
def nearestOnGrid (x : Binary64) (power : Int) : Option Nat :=
  -- a quarter of the unit is `quarter / grid` steps of the grid
  let quarterExponent := x.exponent - 2
  let quarter := Nat.pow 2 quarterExponent.toNat * Nat.pow 10 (-power).toNat
  let grid := Nat.pow 2 (-quarterExponent).toNat * Nat.pow 10 power.toNat
  let value := 4 * x.significand * quarter
  let (low, high) := x.interval
  let inside (n : Nat) : Bool :=
    if x.significand % 2 = 0 then low * quarter ≤ n * grid && n * grid ≤ high * quarter
    else low * quarter < n * grid && n * grid < high * quarter
  let below := value / grid
  let above := below + 1
  match inside below, inside above with
  | false, false => none
  | true, false => some below
  | false, true => some above
  | true, true =>
    let toBelow := value - below * grid
    let toAbove := above * grid - value
    if toBelow < toAbove || (toBelow = toAbove && below % 2 = 0) then some below else some above

/-- Tries ever finer grids, `steps` of them, the first in multiples of `10 ^ power`. -/
def search (x : Binary64) : Nat → Int → Digits
  | 0, power => ⟨0, power⟩
  | steps + 1, power =>
    match x.nearestOnGrid power with
    | some n => ⟨n, power⟩
    | none => x.search steps (power - 1)

/-- The shortest digits of a magnitude. The grids from `10 ^ 309` to `10 ^ -324`
are enough, since the finest of them is finer than any two magnitudes lie apart. -/
def shortest (x : Binary64) : Digits :=
  if x.significand = 0 then ⟨0, 0⟩ else x.search 634 309

end Binary64

/-- When a number is written out in full and when with a power of ten. The leading
digit stands for `10 ^ e`; numbers with `e` from `low` up to `high` are written
out, with a fraction in any case. -/
structure Layout where
  low : Int
  high : Int

namespace Layout

def zeros (n : Int) : List Char :=
  List.replicate n.toNat '0'

def write (layout : Layout) (digits : Digits) : String :=
  let ds := Nat.toDigits 10 digits.value
  let leading : Int := digits.exponent + ds.length - 1
  String.ofList <|
    if digits.value = 0 then ['0', '.', '0']
    else if layout.low ≤ leading ∧ leading ≤ layout.high then
      if 0 ≤ digits.exponent then ds ++ zeros digits.exponent ++ ['.', '0']
      else if 0 ≤ leading then
        ds.take (leading.toNat + 1) ++ '.' :: ds.drop (leading.toNat + 1)
      else ['0', '.'] ++ zeros (-leading - 1) ++ ds
    else
      let fraction := if ds.length = 1 then [] else '.' :: ds.drop 1
      let sign := if leading < 0 then '-' else '+'
      ds.take 1 ++ fraction ++ 'e' :: sign :: Nat.toDigits 10 leading.natAbs

end Layout

end Testbed.Decimal
