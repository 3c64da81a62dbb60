import Testbed.Topology.Address

/-!
# Addresses read from left to right

The two forms of address are said of a text as a whole. Whoever reads one has less to go by.
A number is built up in a byte, digit by digit, and what it has come to has to fit in the byte
at every digit, whatever is to follow. An octet goes on for as long as there are digits, and
whether it was one is asked when they are over. A text is cut at the first slash, without a
look at those that may come after it, and the dot at the end of a block is taken off before
the block is cut at the other dots.

A byte that is read by itself may have a plus sign. Here it is read from nothing but digits.
-/

namespace Testbed.Address.Scan

open Text

/-! ## Numbers in a byte -/

/-- Nothing if the product is more than a byte holds. -/
def mul? (m n : UInt8) : Option UInt8 :=
  if m.toNat * n.toNat < 256 then some (m * n) else none

/-- Nothing if the sum is more than a byte holds. -/
def add? (m n : UInt8) : Option UInt8 :=
  if m.toNat + n.toNat < 256 then some (m + n) else none

def digit? (c : Char) : Option UInt8 :=
  if c.isDigit then some (c.toNat - '0'.toNat).toUInt8 else none

/-- The number with one more digit. -/
def push? (n : UInt8) (c : Char) : Option UInt8 := do
  let tenfold ← mul? n 10
  let digit ← digit? c
  add? tenfold digit

def byte? : List Char → Option UInt8
  | [] => none
  | ['+'] => none
  | '+' :: cs => cs.foldlM push? 0
  | cs => cs.foldlM push? 0

/-- A byte within the limit, written without a sign. -/
def isByteUpTo (limit : UInt8) (cs : List Char) : Bool :=
  !cs.isEmpty && cs.all Char.isDigit && (byte? cs).any (· ≤ limit)

/-! ## Octets -/

/-- Goes on to the end of the digits, of which there may be three; `count` of them have been
read and have come to `n`. The answer is what all of them come to, how many they are, and what
follows them. -/
def digits? (n count : Nat) : List Char → Option (Nat × Nat × List Char)
  | [] => some (n, count, [])
  | c :: cs =>
    if c.isDigit then
      if count < 3 then digits? (10 * n + (c.toNat - '0'.toNat)) (count + 1) cs else none
    else some (n, count, c :: cs)

/-- What follows an octet. -/
def octet? (cs : List Char) : Option (List Char) := do
  let (n, count, rest) ← digits? 0 0 cs
  if count = 0 then none
  else if cs.head? = some '0' ∧ 1 < count then none
  else if n < 256 then some rest
  else none

/-- What follows an octet with a dot in front. -/
def dottedOctet? : List Char → Option (List Char)
  | '.' :: cs => octet? cs
  | _ => none

/-- Four octets, and the text ends behind them. -/
def isDottedQuad (cs : List Char) : Bool :=
  (do
    let cs ← octet? cs
    let cs ← dottedOctet? cs
    let cs ← dottedOctet? cs
    dottedOctet? cs) = some []

/-! ## Both forms -/

/-- What stands before the first separator, and what stands behind it. -/
def cut? (sep : Char) : List Char → Option (List Char × List Char)
  | [] => none
  | c :: cs =>
    if c = sep then some ([], cs)
    else (cut? sep cs).map fun parts => (c :: parts.1, parts.2)

/-- The text without the character, which has to be its last one. -/
def stripLast? (last : Char) (cs : List Char) : Option (List Char) :=
  if cs.getLast? = some last then some cs.dropLast else none

def isWithLength (s : String) : Bool :=
  match cut? '/' s.toList with
  | some (address, length) => isDottedQuad address && isByteUpTo 32 length
  | none => false

def isThreeOctetBlock (s : String) : Bool :=
  match stripLast? '.' s.toList with
  | some octets =>
    (pieces '.' octets).length = 3 && (pieces '.' octets).all (isByteUpTo 255)
  | none => false

example : byte? "+007".toList = some 7 := by decide
example : isWithLength "10.0.0.256/24" = false := by decide
example : isThreeOctetBlock "10.+1.0." = false := by decide

end Testbed.Address.Scan
