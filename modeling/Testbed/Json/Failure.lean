import Testbed.Decimal.Shortest
import Testbed.Text.Quoted
import Testbed.Text.Utf8

/-!
# Why a text could not be read, and where

A message about a text says what is wrong and at which line and column it was
noticed. A column counts the bytes between the start of the line and the place,
so it is no fact about one character: a reader that rejects the character ahead
of it stands one byte into that character, and a reader that has taken the
character stands behind it.

Most failures have their place when they arise. A few arise from what has been
read as a whole, such as a member that is missing, and these are placed where
the reader stands once the closing bracket has been looked for.

A place is kept as the number of bytes from there to the end of the text.
-/

namespace Testbed.Json

/-- A number that was read where none belongs. -/
inductive Number where
  | integer (n : Int)
  | float (negative : Bool) (magnitude : Decimal.Binary64)
  deriving DecidableEq

/-- Fractions are written out from `0.00001` up to sixteen digits before the
point. -/
def floatLayout : Decimal.Layout := ⟨-5, 15⟩

/-- What was found in place of what was expected. -/
inductive Found where
  | null
  | boolean (b : Bool)
  | number (n : Number)
  | string (s : String)
  | list
  | object
  deriving DecidableEq

def Found.describe : Found → String
  | null => "null"
  | boolean b => s!"boolean `{b}`"
  | number (.integer n) => s!"integer `{n}`"
  | number (.float negative magnitude) =>
    let sign := if negative then "-" else ""
    s!"floating point `{sign}{floatLayout.write magnitude.shortest}`"
  | string s => s!"string {Text.quoted s}"
  | list => "sequence"
  | object => "map"

inductive Cause where
  | endInValue
  | endInList
  | endInObject
  | endInString
  | expectedColon
  | expectedListEnd
  | expectedObjectEnd
  | expectedIdent
  | expectedValue
  | invalidEscape
  | invalidNumber
  | numberOutOfRange
  | loneSurrogate
  | escapeCutShort
  | keyNotString
  | trailingComma
  | trailingCharacters
  | controlCharacter
  | invalidType (found : Found) (expected : String)
  | invalidLength (length : Nat) (expected : String)
  | missingField (key : String)
  | duplicateField (key : String)
  deriving DecidableEq

def Cause.describe : Cause → String
  | endInValue => "EOF while parsing a value"
  | endInList => "EOF while parsing a list"
  | endInObject => "EOF while parsing an object"
  | endInString => "EOF while parsing a string"
  | expectedColon => "expected `:`"
  | expectedListEnd => "expected `,` or `]`"
  | expectedObjectEnd => "expected `,` or `\x7d`"
  | expectedIdent => "expected ident"
  | expectedValue => "expected value"
  | invalidEscape => "invalid escape"
  | invalidNumber => "invalid number"
  | numberOutOfRange => "number out of range"
  | loneSurrogate => "lone leading surrogate in hex escape"
  | escapeCutShort => "unexpected end of hex escape"
  | keyNotString => "key must be a string"
  | trailingComma => "trailing comma"
  | trailingCharacters => "trailing characters"
  | controlCharacter => "control character (\\u0000-\\u001F) found while parsing a string"
  | invalidType found expected => s!"invalid type: {found.describe}, expected {expected}"
  | invalidLength length expected => s!"invalid length {length}, expected {expected}"
  | missingField key => s!"missing field `{key}`"
  | duplicateField key => s!"duplicate field `{key}`"

/-- A failure in the middle of reading. -/
inductive Failure where
  /-- The place has `left` bytes of the text after it. -/
  | placed (cause : Cause) (left : Nat)
  /-- The place is still to be found; reading has come as far as `rest`. -/
  | unplaced (cause : Cause) (rest : List Char)
  deriving DecidableEq

namespace Failure

/-- A failure noticed `ahead` bytes into the unread text. -/
def ahead (ahead : Nat) (cause : Cause) (rest : List Char) : Failure :=
  .placed cause (Text.byteCount rest - ahead)

/-- A failure noticed by looking at the next byte, if there is one. -/
def peeked (cause : Cause) (rest : List Char) : Failure :=
  .ahead 1 cause rest

/-- A failure of what has been read. -/
def behind (cause : Cause) (rest : List Char) : Failure :=
  .ahead 0 cause rest

end Failure

structure Position where
  line : Nat
  column : Nat
  deriving DecidableEq

/-- The place after some bytes: lines are counted from one, columns from nought. -/
def Position.after (bytes : List UInt8) : Position where
  line := 1 + bytes.count 10
  column := (bytes.reverse.takeWhile (· ≠ 10)).length

/-- A failure with its place in the text. -/
structure ReadError where
  cause : Cause
  position : Position
  deriving DecidableEq

namespace ReadError

def ofFailure (text : String) : Failure → ReadError
  | .placed cause left =>
    let bytes := Text.bytes text
    ⟨cause, Position.after (bytes.take (bytes.length - left))⟩
  | .unplaced cause rest =>
    let bytes := Text.bytes text
    ⟨cause, Position.after (bytes.take (bytes.length - Text.byteCount rest))⟩

def message (e : ReadError) : String :=
  s!"{e.cause.describe} at line {e.position.line} column {e.position.column}"

end ReadError

end Testbed.Json
