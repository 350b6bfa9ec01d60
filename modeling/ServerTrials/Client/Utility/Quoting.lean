import ServerTrials.Client.ByteText

/-!
Texts in the complaints of programs.

A text stands between quotes with its escapes spelled out. A name is shown in such a way that a shell reads it
back: bare if nothing in it has a meaning for a shell, else in quotes, and what does not show is spelled in
quotes of its own.
-/

namespace ServerTrials.Client.Utility

/-- A text between quotes, as it is. -/
def inQuotes (s : String) : String := "'" ++ s ++ "'"

/-- The letter that spells a character after a backslash. -/
def spellingLetter? : Char → Option Char
  | '\x07' => some 'a'
  | '\x08' => some 'b'
  | '\t' => some 't'
  | '\n' => some 'n'
  | '\x0b' => some 'v'
  | '\x0c' => some 'f'
  | '\r' => some 'r'
  | _ => none

/-- Whether a byte shows. -/
def isShowing (c : Char) : Bool := 32 ≤ c.toNat && c.toNat < 127

/-- A byte that does not show, spelled after a backslash: by a letter or by three octal digits. -/
def spelling (c : Char) : List Char :=
  match spellingLetter? c with
  | some l => ['\\', l]
  | none => ['\\', Nat.digitChar (c.toNat / 64), Nat.digitChar (c.toNat / 8 % 8), Nat.digitChar (c.toNat % 8)]

/-- A text between quotes, with escapes for what does not show, for quotes and for backslashes. -/
def quotedText (s : String) : String :=
  inQuotes (String.ofList (s.toList.flatMap fun c =>
    if c == '\'' || c == '\\' then ['\\', c] else if isShowing c then [c] else spelling c))

/-- Whether a byte means the same in both kinds of quotes of a shell. -/
def isHarmless (c : Char) : Bool :=
  isShowing c && !("!\"#$&()*;<=>?[\\^\x60\x7b|\x7d~".toList.contains c)

/-- A name in single quotes from inside them on; `spells` says whether a spelled byte came just before. -/
def shellQuoted (spells : Bool) : List Char → List Char
  | [] => ['\'']
  | '\'' :: cs => ['\'', '\\', '\'', '\''] ++ shellQuoted false cs
  | c :: cs =>
    if isShowing c then (if spells then ['\'', '\''] else []) ++ c :: shellQuoted false cs
    else (if spells then [] else ['\'', '$', '\'']) ++ spelling c ++ shellQuoted true cs

/-- A name in quotes that a shell reads back: in double ones if it holds single ones and nothing that means
something in double ones. -/
def quotedName (s : String) : String :=
  match s.toList with
  | [] => "''"
  | c :: cs =>
    if (c :: cs).contains '\'' && (isHarmless c || c == '#' || c == '~') && cs.all isHarmless then
      "\"" ++ s ++ "\""
    else String.ofList ('\'' :: shellQuoted false (c :: cs))

/-- Whether a byte of a name asks for quotes wherever it stands. -/
def asksQuotes (c : Char) : Bool := !isShowing c || " !\"$&'()*;<=>?[\\^\x60|".toList.contains c

/-- A name as complaints show it: in quotes if it has to be. -/
def shown (s : String) : String :=
  let asks := match s.toList with
    | [] | ['\x7b'] | ['\x7d'] | '#' :: _ | '~' :: _ => true
    | cs => cs.any asksQuotes
  if asks then quotedName s else s

end ServerTrials.Client.Utility
