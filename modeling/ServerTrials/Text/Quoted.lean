import ServerTrials.Text.Hidden

/-!
Quoted text, as messages and logs show a string they did not make themselves.

The text stands in double quotes. Line ends, tabs, NUL, quotes and backslashes have an escape of one
letter; every other character that does not show on its own is written as its code point.
-/

namespace ServerTrials.Text

/-- A code point as an escape. -/
def codePoint (c : Char) : List Char :=
  ['\\', 'u', '\x7b'] ++ Nat.toDigits 16 c.toNat ++ ['\x7d']

/-- One character of a quoted text. -/
def quotedChar : Char → List Char
  | '\x00' => ['\\', '0']
  | '\t' => ['\\', 't']
  | '\r' => ['\\', 'r']
  | '\n' => ['\\', 'n']
  | '"' => ['\\', '"']
  | '\\' => ['\\', '\\']
  | c => if isHidden c then codePoint c else [c]

/-- A text in quotes. -/
def quoted (s : String) : String := String.ofList ('"' :: s.toList.flatMap quotedChar ++ ['"'])

end ServerTrials.Text
