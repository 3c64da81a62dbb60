import Testbed.Text.Pieces

/-!
# The two forms of address a circuit may carry

An address with its network length is four octets and a length, `10.0.0.1/24`.
Its octets are read the strict way, since a leading zero once announced base
eight and readers still disagree about it. The block of a point-to-point circuit
is three octets and a dot, `10.0.1.`; the last octet is appended to it. Its
octets, and the network length, are plain numerals and may have leading zeros.

Only the digits of ASCII count as digits here.
-/

namespace Testbed.Address

open Text

/-- The number a row of decimal digits stands for. -/
def numeral (digits : List Char) : Nat :=
  digits.foldl (fun n d => 10 * n + (d.toNat - '0'.toNat)) 0

/-- At least one digit and no other character, for a number within the limit. -/
def isNumeralUpTo (limit : Nat) (cs : List Char) : Bool :=
  !cs.isEmpty && cs.all Char.isDigit && numeral cs ≤ limit

/-- A number of at most 255 in the only way of writing it. -/
def isStrictOctet (cs : List Char) : Bool :=
  isNumeralUpTo 255 cs && cs.length ≤ 3 && (cs.head? ≠ some '0' || cs.length = 1)

def isDottedQuad (cs : List Char) : Bool :=
  match pieces '.' cs with
  | [a, b, c, d] => [a, b, c, d].all isStrictOctet
  | _ => false

/-- Four octets, a slash, and a length of at most 32. -/
def isWithLength (s : String) : Bool :=
  match pieces '/' s.toList with
  | [address, length] => isDottedQuad address && isNumeralUpTo 32 length
  | _ => false

/-- Three octets, each with a dot after it. -/
def isThreeOctetBlock (s : String) : Bool :=
  match pieces '.' s.toList with
  | [a, b, c, []] => [a, b, c].all (isNumeralUpTo 255)
  | _ => false

example : isWithLength "192.168.1.0/024" = true := by decide
example : isWithLength "192.168.01.0/24" = false := by decide
example : isThreeOctetBlock "010.0.255." = true := by decide

end Testbed.Address
