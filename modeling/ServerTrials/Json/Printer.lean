import ServerTrials.Json.Basic
import ServerTrials.Number.Shortest

/-!
The text of JSON values: one compact line, or laid out with two spaces for each level.

Members are written in the order in which the value holds them. A string escapes the quote, the
backslash and the characters below the blank; everything else stands for itself.
-/

namespace ServerTrials.Json

/-- The escape of one character inside a string. -/
def escapeChar (c : Char) : List Char :=
  match c with
  | '"' => ['\\', '"']
  | '\\' => ['\\', '\\']
  | '\n' => ['\\', 'n']
  | '\r' => ['\\', 'r']
  | '\t' => ['\\', 't']
  | '\x08' => ['\\', 'b']
  | '\x0c' => ['\\', 'f']
  | c =>
    if c.toNat < 0x20 then
      ['\\', 'u', '0', '0', Nat.digitChar (c.toNat / 16), Nat.digitChar (c.toNat % 16)]
    else [c]

/-- A string in quotes. -/
def quote (s : String) : String := String.ofList ('"' :: s.toList.flatMap escapeChar ++ ['"'])

/-- The text of a number. -/
def Number.text : Number → String
  | .integer n => toString n
  | .fraction x => x.text

mutual

/-- The compact text of a value. -/
def text : Json → String
  | .null => "null"
  | .bool true => "true"
  | .bool false => "false"
  | .number n => n.text
  | .string s => quote s
  | .array items => "[" ++ itemsText "" items ++ "]"
  | .object members => "\x7b" ++ membersText "" members ++ "\x7d"

/-- The items, each after a separator; the first after `separator`, the others after a comma. -/
def itemsText (separator : String) : List Json → String
  | [] => ""
  | x :: xs => separator ++ x.text ++ itemsText "," xs

/-- The members, each after a separator; the first after `separator`, the others after a comma. -/
def membersText (separator : String) : List (String × Json) → String
  | [] => ""
  | (k, x) :: ms => separator ++ quote k ++ ":" ++ x.text ++ membersText "," ms

end

/-- A line end and two spaces for each level. -/
def newline (level : Nat) : String := "\n" ++ String.ofList (List.replicate (2 * level) ' ')

mutual

/-- The text of a value laid out over lines; empty arrays and objects stay on theirs. -/
def layout (level : Nat) : Json → String
  | .array [] => "[]"
  | .array (x :: xs) => "[" ++ layoutItems (level + 1) "" (x :: xs) ++ newline level ++ "]"
  | .object [] => "\x7b\x7d"
  | .object (m :: ms) => "\x7b" ++ layoutMembers (level + 1) "" (m :: ms) ++ newline level ++ "\x7d"
  | .null => "null"
  | .bool true => "true"
  | .bool false => "false"
  | .number n => n.text
  | .string s => quote s

/-- The items on lines of their own. -/
def layoutItems (level : Nat) (separator : String) : List Json → String
  | [] => ""
  | x :: xs => separator ++ newline level ++ layout level x ++ layoutItems level "," xs

/-- The members on lines of their own, a blank after each colon. -/
def layoutMembers (level : Nat) (separator : String) : List (String × Json) → String
  | [] => ""
  | (k, x) :: ms =>
    separator ++ newline level ++ quote k ++ ": " ++ layout level x ++ layoutMembers level "," ms

end

/-- The text of a value laid out over lines. -/
def pretty (v : Json) : String := layout 0 v

end ServerTrials.Json
