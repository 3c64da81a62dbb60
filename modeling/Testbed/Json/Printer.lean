/-!
# Writing strings, lists and objects

Each element of a list and each member of an object is written on a line of its
own, two spaces further in than the bracket; an empty list is the two brackets.
In a string only what the format forbids there is escaped, in the short way where
there is one.

The writers of containers take parts that are written already, and the depth at
which the container itself stands.
-/

namespace Testbed.Json

/-- A character as it stands between quotes. -/
def escaped (c : Char) : List Char :=
  match c with
  | '"' => ['\\', '"']
  | '\\' => ['\\', '\\']
  | '\x08' => ['\\', 'b']
  | '\x0c' => ['\\', 'f']
  | '\n' => ['\\', 'n']
  | '\r' => ['\\', 'r']
  | '\t' => ['\\', 't']
  | c =>
    if c < ' ' then
      ['\\', 'u', '0', '0', (c.toNat / 16).digitChar, (c.toNat % 16).digitChar]
    else [c]

def printString (s : String) : List Char :=
  '"' :: s.toList.flatMap escaped ++ ['"']

/-- A new line, indented to a depth. -/
def newLine (depth : Nat) : List Char :=
  '\n' :: List.replicate (2 * depth) ' '

/-- Parts between brackets, with a comma after each but the last. -/
def printParts (opening closing : Char) (depth : Nat) (parts : List (List Char)) : List Char :=
  if parts.isEmpty then [opening, closing]
  else
    opening ::
      [','].intercalate (parts.map (newLine (depth + 1) ++ ·)) ++ newLine depth ++ [closing]

def printList (depth : Nat) (elements : List (List Char)) : List Char :=
  printParts '[' ']' depth elements

def printMember (key : String) (value : List Char) : List Char :=
  printString key ++ [':', ' '] ++ value

def printObject (depth : Nat) (members : List (List Char)) : List Char :=
  printParts '{' '}' depth members

end Testbed.Json
