import Testbed.Json.Skip
import Mathlib.Data.List.Forall2

/-!
# The texts of the format

What is a text of the format, and for which value, is said here without a reader. Nearly
every value can be written in several ways. Blanks may stand around every part, a
character between quotes may stand for itself or be escaped, and what an object says does
not hang on the order of its members.

`IsValue` describes every text that is some value, whatever it is. The relations that start
with `Writes` tell which value a text is, for the three forms that are read: strings,
lists of one form, and objects as lists of members.

An escape of four digits stands for one unit of the encoding in sixteen bits. A character
beyond these is written as two of them, the surrogates. A text is a value even if a
surrogate stands alone in a string, but such a string is not the text of any characters.
-/

namespace Testbed.Json

/-- Nothing but blanks. -/
def Blank (s : List Char) : Prop :=
  ∀ c ∈ s, isGap c = true

instance : DecidablePred Blank :=
  List.decidableBAll (isGap · = true)

theorem blank_nil : Blank [] :=
  fun _ h => nomatch h

/-! ## Characters and strings -/

/-- A hexadecimal digit, in either case. -/
def IsHexDigit (c : Char) (n : Nat) : Prop :=
  n < 16 ∧ (c = n.digitChar ∨ c = n.digitChar.toUpper)

/-- Four hexadecimal digits, the highest first. -/
inductive HexQuad : List Char → Nat → Prop
  | mk {a b c d : Char} {p q r s : Nat} : IsHexDigit a p → IsHexDigit b q → IsHexDigit c r →
      IsHexDigit d s → HexQuad [a, b, c, d] (((p * 16 + q) * 16 + r) * 16 + s)

/-- The letters that make an escape behind a backslash, and what they stand for. -/
def shortEscapes : List (Char × Char) :=
  [('"', '"'), ('\\', '\\'), ('/', '/'), ('b', '\x08'), ('f', '\x0c'), ('n', '\n'), ('r', '\r'),
    ('t', '\t')]

/-- What can stand for one character, or for one unit of it, between quotes. -/
inductive IsCharText : List Char → Prop
  | plain {c : Char} : c ≠ '"' → c ≠ '\\' → ¬ c < ' ' → IsCharText [c]
  | short {letter c : Char} : (letter, c) ∈ shortEscapes → IsCharText ['\\', letter]
  | unit {quad : List Char} {n : Nat} : HexQuad quad n → IsCharText ('\\' :: 'u' :: quad)

/-- A string, of whatever characters. -/
def IsString (text : List Char) : Prop :=
  ∃ parts : List (List Char), (∀ part ∈ parts, IsCharText part) ∧
    text = '"' :: (parts.flatten ++ ['"'])

/-- The ways of writing a character between quotes. -/
inductive WritesChar : List Char → Char → Prop
  | plain {c : Char} : c ≠ '"' → c ≠ '\\' → ¬ c < ' ' → WritesChar [c] c
  | short {letter c : Char} : (letter, c) ∈ shortEscapes → WritesChar ['\\', letter] c
  | unit {quad : List Char} {c : Char} : HexQuad quad c.toNat → WritesChar ('\\' :: 'u' :: quad) c
  | surrogates {leading trailing : List Char} {c : Char} : 0x10000 ≤ c.toNat →
      HexQuad leading (0xD800 + (c.toNat - 0x10000) / 0x400) →
      HexQuad trailing (0xDC00 + (c.toNat - 0x10000) % 0x400) →
      WritesChar ('\\' :: 'u' :: (leading ++ '\\' :: 'u' :: trailing)) c

def WritesString (text : List Char) (s : String) : Prop :=
  ∃ parts : List (List Char), List.Forall₂ WritesChar parts s.toList ∧
    text = '"' :: (parts.flatten ++ ['"'])

/-! ## Numbers -/

def IsDigits (s : List Char) : Prop :=
  s ≠ [] ∧ ∀ c ∈ s, c.isDigit = true

/-- The digits in front of the point. A leading zero stands alone. -/
def IsWhole (s : List Char) : Prop :=
  s = ['0'] ∨ IsDigits s ∧ s.head? ≠ some '0'

def IsFraction (s : List Char) : Prop :=
  s = [] ∨ ∃ digits, IsDigits digits ∧ s = '.' :: digits

def IsExponent (s : List Char) : Prop :=
  s = [] ∨ ∃ mark sign digits, (mark = 'e' ∨ mark = 'E') ∧
    (sign = [] ∨ sign = ['+'] ∨ sign = ['-']) ∧ IsDigits digits ∧ s = mark :: (sign ++ digits)

def IsNumber (s : List Char) : Prop :=
  ∃ sign whole fraction exponent, (sign = [] ∨ sign = ['-']) ∧ IsWhole whole ∧
    IsFraction fraction ∧ IsExponent exponent ∧ s = sign ++ (whole ++ (fraction ++ exponent))

/-! ## Containers -/

def Container.opening : Container → Char
  | list => '['
  | object => '{'

/-- Parts with a comma between any two and blanks around each. -/
inductive Separated : List (List Char) → List Char → Prop
  | last {before part after : List Char} : Blank before → Blank after →
      Separated [part] (before ++ (part ++ after))
  | cons {before part after text : List Char} {parts : List (List Char)} : Blank before →
      Blank after → Separated parts text →
      Separated (part :: parts) (before ++ (part ++ (after ++ ',' :: text)))

/-- The parts of a container between its brackets. -/
inductive Enclosed (container : Container) : List (List Char) → List Char → Prop
  | empty {gap : List Char} : Blank gap →
      Enclosed container [] (container.opening :: (gap ++ [container.closing]))
  | parts {parts : List (List Char)} {text : List Char} : Separated parts text →
      Enclosed container parts (container.opening :: (text ++ [container.closing]))

/-- What stands in front of a value in a container: a key and a colon if it is an object. -/
def Container.IsLabel : Container → List Char → Prop
  | list, label => label = []
  | object, label => ∃ key gap gap', IsString key ∧ Blank gap ∧ Blank gap' ∧
      label = key ++ (gap ++ ':' :: gap')

/-! ## Values -/

inductive IsValue : List Char → Prop
  | null : IsValue ['n', 'u', 'l', 'l']
  | yes : IsValue ['t', 'r', 'u', 'e']
  | no : IsValue ['f', 'a', 'l', 's', 'e']
  | number {text : List Char} : IsNumber text → IsValue text
  | string {text : List Char} : IsString text → IsValue text
  | container {text : List Char} (container : Container) (parts : List (List Char × List Char)) :
      (∀ part ∈ parts, container.IsLabel part.1) → (∀ part ∈ parts, IsValue part.2) →
      Enclosed container (parts.map fun part => part.1 ++ part.2) text → IsValue text

def WritesList {α : Type} (item : List Char → α → Prop) (text : List Char) (xs : List α) : Prop :=
  ∃ parts, Enclosed .list parts text ∧ List.Forall₂ item parts xs

/-- A member is its key and the text of its value. -/
def WritesMember (text : List Char) (m : String × List Char) : Prop :=
  ∃ key gap gap', WritesString key m.1 ∧ Blank gap ∧ Blank gap' ∧
    text = key ++ (gap ++ ':' :: (gap' ++ m.2))

def WritesObject (text : List Char) (members : List (String × List Char)) : Prop :=
  ∃ parts, Enclosed .object parts text ∧ List.Forall₂ WritesMember parts members

/-- An object that has these members, and others whose keys are none of the given ones and
whose values are any. The members may stand in any order. -/
def WritesRecord (keys : List String) (text : List Char) (members : List (String × List Char)) :
    Prop :=
  ∃ all others, WritesObject text all ∧ all.Perm (members ++ others) ∧
    ∀ m ∈ others, m.1 ∉ keys ∧ IsValue m.2

/-- The member under a key whose value is a list. It may be left out if the list is empty. -/
inductive WritesSlot {α : Type} (item : List Char → α → Prop) (key : String) :
    List (String × List Char) → List α → Prop
  | written {text : List Char} {xs : List α} : WritesList item text xs →
      WritesSlot item key [(key, text)] xs
  | absent : WritesSlot item key [] []

/-- A text that is nothing but a value and blanks around it. -/
def WritesWhole {α : Type} (value : List Char → α → Prop) (text : String) (x : α) : Prop :=
  ∃ before inner after, Blank before ∧ Blank after ∧ value inner x ∧
    text.toList = before ++ (inner ++ after)

end Testbed.Json
