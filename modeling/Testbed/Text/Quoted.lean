import Testbed.Text.GraphemeExtend
import Testbed.Text.Printable

/-!
# Text in quotes, with nothing in it that cannot be seen

Messages show a name between double quotes and in a form that survives being
copied out of a terminal. Six characters have a spelling of two characters. A
character that does not print, or that would be drawn onto its neighbour, is
spelled by its code point in lower-case hexadecimal between braces. Everything
else stands for itself, the single quote included.
-/

namespace Testbed.Text

/-- The spelling of a character inside double quotes. -/
def spell (c : Char) : List Char :=
  match c with
  | '"' => ['\\', '"']
  | '\\' => ['\\', '\\']
  | '\t' => ['\\', 't']
  | '\r' => ['\\', 'r']
  | '\n' => ['\\', 'n']
  | '\x00' => ['\\', '0']
  | c =>
    if extendsGrapheme c || !isPrintable c then
      ['\\', 'u', '{'] ++ Nat.toDigits 16 c.toNat ++ ['}']
    else
      [c]

def quoted (s : String) : String :=
  String.ofList ('"' :: s.toList.flatMap spell ++ ['"'])

end Testbed.Text
