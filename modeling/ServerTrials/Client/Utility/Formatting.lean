import ServerTrials.Client.Utility.Basic
import ServerTrials.Client.Utility.Printf

/-!
The program that writes its arguments by a format.

It knows more escapes than a shell does, holds real numbers in ten bytes, and says so if arguments are left
over that its format has no use for.
-/

namespace ServerTrials.Client.Utility.Formatting

/-! ### Escapes -/

/-- What an escape gives: characters and what follows it, the end of all that is written, or a complaint. -/
inductive Escape where
  | chars (cs rest : List Char)
  | ends
  | wrong (reason : String)
  deriving DecidableEq, Repr

/-- The number that digits in a base spell. -/
def valueIn (base : Nat) (ds : List Char) : Nat := (ds.filterMap Real.hexDigit?).foldl (fun n d => n * base + d) 0

/-- The digits in base sixteen at the front of a text, so many at most. -/
def hexDigits (most : Nat) (cs : List Char) : List Char :=
  (cs.take most).takeWhile fun c => (Real.hexDigit? c).isSome

/-- A number in so many digits of base sixteen. -/
def inHex (width n : Nat) : List Char :=
  let ds := (Nat.toDigits 16 n).map Char.toUpper
  List.replicate (width - ds.length) '0' ++ ds

/-- The escape of a character by its number, of so many digits. A character beyond the first ones cannot be
written, so its escape is. -/
def numbered (mark : Char) (width : Nat) (cs : List Char) : Escape :=
  let ds := hexDigits width cs
  let n := valueIn 16 ds
  if ds.length < width then .wrong "missing hexadecimal number in escape"
  else if (n ≤ 0x9f && !([0x24, 0x40, 0x60].contains n)) || (0xd800 ≤ n && n ≤ 0xdfff) then
    .wrong ("invalid universal character name \\" ++ String.ofList (mark :: ds.map Char.toLower))
  else if n < 128 then .chars [Char.ofNat n] (cs.drop width)
  else if n < 65536 then .chars ('\\' :: 'u' :: inHex 4 n) (cs.drop width)
  else .chars ('\\' :: 'U' :: inHex 8 n) (cs.drop width)

/-- The escape after a backslash; `inText` says that an octal number may have a zero of its own before it. -/
def escape (inText : Bool) : List Char → Escape
  | [] => .chars ['\\'] []
  | 'c' :: _ => .ends
  | '"' :: rest => .chars ['"'] rest
  | 'x' :: rest =>
    match hexDigits 2 rest with
    | [] => .wrong "missing hexadecimal number in escape"
    | ds => .chars [Char.ofNat (valueIn 16 ds)] (rest.drop ds.length)
  | 'u' :: rest => numbered 'u' 4 rest
  | 'U' :: rest => numbered 'U' 8 rest
  | c :: rest =>
    match letterEscape? c with
    | some d => .chars [d] rest
    | none =>
      if isOctal c then
        let (d, rest) := takeOctal (if inText && c == '0' then rest else c :: rest)
        .chars [d] rest
      else .chars ['\\', c] rest

/-! ### Formats -/

/-- The wording of the program about a number that an argument spells. -/
def faultWording (s : String) : NumberFault → String
  | .unreadable | .noCharacter => quotedText s ++ ": expected a numeric value"
  | .unfinished => quotedText s ++ ": value not completely converted"
  | .outOfRange => quotedText s ++ ": Numerical result out of range"
  | .excess rest => "warning: " ++ rest ++ ": character(s) following character constant have been ignored"

/-- Adds a complaint about a number; too many characters after a quote are no failure. -/
def blame (p : Printed) (arg : String) : Option NumberFault → Printed
  | none => p
  | some (.excess rest) =>
    { p with complaints := p.complaints ++ [faultWording arg (.excess rest)] }
  | some fault => p.complain (some (faultWording arg fault))

/-- Gives up with a complaint. -/
def giveUp (p : Printed) (reason : String) : Printed :=
  { p with complaints := p.complaints ++ [reason], status := 1, stops := true }

/-- Writes an argument with its escapes. -/
def writeText : Nat → Printed → List Char → Printed
  | 0, p, _ => p
  | _, p, [] => p
  | n + 1, p, '\\' :: cs =>
    match escape true cs with
    | .chars ds rest => writeText n (p.add (String.ofList ds)) rest
    | .ends => { p with stops := true, status := 0 }
    | .wrong reason => giveUp p reason
  | n + 1, p, c :: cs => writeText n (p.add (String.ofList [c])) cs

/-- Whether a letter may end a directive with these flags. -/
def allows (flags : List Char) (precise : Bool) (letter : Char) : Bool :=
  "aAcdeEfFgGiosuxX".toList.contains letter
    && !(flags.contains '\'' && "aAceEosxX".toList.contains letter)
    && !(flags.contains '#' && "cdisu".toList.contains letter)
    && !(flags.contains '0' && "cs".toList.contains letter)
    && !(precise && letter == 'c')

/-- Writes the format once; answers the arguments left over as well. -/
def writeOnce : Nat → Printed → List Char → List String → Printed × List String
  | 0, p, _, args => (p, args)
  | _, p, [], args => (p, args)
  | n + 1, p, '\\' :: cs, args =>
    match escape false cs with
    | .chars ds rest => writeOnce n (p.add (String.ofList ds)) rest args
    | .ends => ({ p with stops := true, status := 0 }, args)
    | .wrong reason => (giveUp p reason, args)
  | n + 1, p, '%' :: '%' :: rest, args => writeOnce n (p.add "%") rest args
  | n + 1, p, '%' :: 'b' :: rest, args =>
    let text := (args.headD "").toList
    let p := writeText (text.length + 1) p text
    if p.stops then (p, args) else writeOnce n p rest (args.drop 1)
  | n + 1, p, '%' :: 'q' :: rest, args =>
    writeOnce n (p.add ((args.head?.map shown).getD "")) rest (args.drop 1)
  | n + 1, p, '%' :: rest, args =>
    let marks := rest.takeWhile "-+ #0'I".toList.contains
    let plain := marks.filter fun c => c != '\'' && c != 'I'
    let (d, after, left) := readDirective (plain ++ rest.drop marks.length) args
    let sizes := (d.letter :: after).takeWhile "lLhjtz".toList.contains
    let after := (d.letter :: after).drop sizes.length
    let letter := after.headD '\x00'
    let after := after.drop 1
    let precise := (rest.take (rest.length - after.length)).contains '.'
    if !allows marks precise letter then
      (giveUp p ("%" ++ String.ofList ((rest.take (rest.length - after.length)).filter (· != '\x00'))
        ++ ": invalid conversion specification"), left)
    else
      let arg := left.headD ""
      let g := valueText .extended { d with letter } arg
      writeOnce n ((blame p arg g.fault).add g.value) after (left.drop 1)
  | n + 1, p, c :: rest, args => writeOnce n (p.add (String.ofList [c])) rest args

/-- Writes the format again and again as long as it takes arguments and some are left. -/
def writeAgain (format : List Char) : Nat → Printed → List String → Printed
  | 0, p, _ => p
  | n + 1, p, args =>
    match writeOnce (format.length + 1) p format args with
    | (p, []) => p
    | (p, a :: left) =>
      if p.stops then p
      else if (a :: left).length = args.length then
        { p with complaints := p.complaints ++
            ["warning: ignoring excess arguments, starting with " ++ quotedText a] }
      else writeAgain format n p (a :: left)

end Formatting

/-- Writes its arguments by a format. -/
def printfProgram : Program := do
  let args := (← read).args
  match if args.head? == some "--" then args.drop 1 else args with
  | [] => misuse "missing operand"
  | format :: args => do
    let p := Formatting.writeAgain format.toList (args.length + 1) {} args
    for c in p.complaints do
      complain c
    put p.text
    leave p.status

end ServerTrials.Client.Utility
