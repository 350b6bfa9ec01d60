import ServerTrials.Client.ByteText
import ServerTrials.Client.Utility.Real

/-!
Escapes and directives: what `echo` and `printf` write.

A format is written again as long as it takes arguments and some are left. A directive without an
argument gets an empty one.
-/

namespace ServerTrials.Client.Utility

/-! ### Escapes -/

/-- The character of an escape of one letter. -/
def letterEscape? : Char → Option Char
  | 'a' => some '\x07'
  | 'b' => some '\x08'
  | 'e' => some '\x1b'
  | 'f' => some '\x0c'
  | 'n' => some '\n'
  | 'r' => some '\r'
  | 't' => some '\t'
  | 'v' => some '\x0b'
  | '\\' => some '\\'
  | _ => none

/-- Whether a character is an octal digit. -/
def isOctal (c : Char) : Bool := '0' ≤ c && c ≤ '7'

/-- The character with the number of up to three octal digits at the front, and what follows them. -/
def takeOctal (cs : List Char) : Char × List Char :=
  let ds := (cs.take 3).takeWhile isOctal
  let n := ds.foldl (fun n c => n * 8 + (c.toNat - '0'.toNat)) 0
  (Char.ofNat (n % 256), cs.drop ds.length)

/-- The escape after a backslash; one that is not known stands for itself with the backslash. -/
def readEscape (cs : List Char) : List Char × List Char :=
  match cs with
  | [] => (['\\'], [])
  | c :: rest =>
    match letterEscape? c with
    | some d => ([d], rest)
    | none =>
      if isOctal c then
        let (d, rest) := takeOctal cs
        ([d], rest)
      else (['\\', c], rest)

/-- A text with its escapes written out, and whether the output ends there; an octal number may have a
zero of its own before it. -/
def escaped : Nat → List Char → List Char × Bool
  | 0, _ => ([], false)
  | _, [] => ([], false)
  | _, '\\' :: 'c' :: _ => ([], true)
  | n + 1, '\\' :: cs =>
    let (d, rest) := match cs with
      | '0' :: o :: _ => if isOctal o then readEscape (cs.drop 1) else readEscape cs
      | cs => readEscape cs
    let (more, stops) := escaped n rest
    (d ++ more, stops)
  | n + 1, c :: rest =>
    let (more, stops) := escaped n rest
    (c :: more, stops)

/-- A text with its escapes written out, and whether the output ends there. -/
def escapedText (s : String) : String × Bool :=
  let (cs, stops) := escaped (s.length + 1) s.toList
  (String.ofList cs, stops)

/-- What the `echo` of a shell writes: its arguments with blanks between them and a line end, unless the
first one is `-n`. -/
def echo (args : List String) : String :=
  let (newline, args) := match args with
    | "-n" :: rest => (false, rest)
    | args => (true, args)
  let (text, stops) := escapedText (" ".intercalate args)
  if newline && !stops then text ++ "\n" else text

/-! ### Directives -/

/-- A directive: its flags, its width, its precision and its letter. -/
structure Directive where
  flags : List Char
  width : Nat
  precision : Option Nat
  letter : Char
  deriving DecidableEq, Repr

namespace Directive

/-- Whether a flag is set. -/
def has (d : Directive) (flag : Char) : Bool := d.flags.contains flag

/-- A text filled up to the width with blanks. -/
def pad (d : Directive) (s : String) : String :=
  let fill := String.ofList (List.replicate (d.width - s.length) ' ')
  if d.has '-' then s ++ fill else fill ++ s

/-- A number, in parts before and after the place where zeros fill it up to the width. -/
def padNumber (d : Directive) (zeros : Bool) (before digits : String) : String :=
  let fill := d.width - (before.length + digits.length)
  if zeros && d.has '0' && !d.has '-' then
    before ++ String.ofList (List.replicate fill '0') ++ digits
  else d.pad (before ++ digits)

/-- The sign before a number. -/
def sign (d : Directive) (negative : Bool) : String :=
  if negative then "-" else if d.has '+' then "+" else if d.has ' ' then " " else ""

/-- Digits filled up with zeros to the precision. -/
def precise (d : Directive) (ds : List Char) : List Char :=
  match d.precision with
  | some p => if p = 0 && ds == ['0'] then [] else List.replicate (p - ds.length) '0' ++ ds
  | none => ds

/-- An integer in decimal digits. -/
def decimal (d : Directive) (n : Int) : String :=
  d.padNumber d.precision.isNone (d.sign (n < 0))
    (String.ofList (d.precise (Nat.toDigits 10 n.natAbs)))

/-- A natural number in digits of a base. -/
def inBase (d : Directive) (base n : Nat) : String :=
  let ds := d.precise (Nat.toDigits base n)
  let ds := if d.letter == 'X' then ds.map Char.toUpper else ds
  if base = 8 then
    let ds := if d.has '#' && ds.head? != some '0' then '0' :: ds else ds
    d.padNumber d.precision.isNone "" (String.ofList ds)
  else
    let before := if base = 16 && d.has '#' && n ≠ 0 then String.ofList ['0', d.letter] else ""
    d.padNumber d.precision.isNone before (String.ofList ds)

/-- A magnitude with a sign; in base sixteen the zeros that fill it up stand after its first two signs. -/
def magnitude (d : Directive) (k : Real.Kind) (negative : Bool) (m : Real.Magnitude) : String :=
  let p := d.precision.getD 6
  let keep := d.has '#'
  let sign := d.sign negative
  match d.letter with
  | 'f' | 'F' => d.padNumber true sign (Real.fixed m.num m.den p keep)
  | 'e' => d.padNumber true sign (Real.exponential m.num m.den p keep false)
  | 'E' => d.padNumber true sign (Real.exponential m.num m.den p keep true)
  | 'a' | 'A' =>
    let text := Real.hexadecimal k m d.precision keep (d.letter == 'A')
    d.padNumber true (sign ++ String.ofList (text.toList.take 2)) (String.ofList (text.toList.drop 2))
  | 'G' => d.padNumber true sign (Real.general m.num m.den p keep true)
  | _ => d.padNumber true sign (Real.general m.num m.den p keep false)

/-- A real number. -/
def real (d : Directive) (x : Binary64) : String :=
  d.magnitude .double x.negative ⟨x.mantissa, x.exponent⟩

/-- What is no finite number. -/
def notFinite (d : Directive) (negative : Bool) (name : String) : String :=
  d.pad (d.sign negative ++ (if d.letter.isUpper then name.toUpper else name))

end Directive

/-! ### Numbers of arguments -/

/-- The first number that is no word of 64 bits. -/
def wordBound : Int := 18446744073709551616

/-- The numbers that words with a sign hold are below this one. -/
def halfBound : Int := 9223372036854775808

/-- What can be wrong with a number that an argument spells. -/
inductive NumberFault where
  | unreadable
  | unfinished
  | outOfRange
  /-- No character follows the quote that asks for its number. -/
  | noCharacter
  /-- These characters follow the one whose number is asked for. -/
  | excess (rest : String)
  deriving DecidableEq, Repr

/-- The wording of a shell about a number that an argument spells, if it says anything. -/
def NumberFault.wording (s : String) : NumberFault → Option String
  | .unreadable => some (s ++ ": expected numeric value")
  | .unfinished => some (s ++ ": not completely converted")
  | .outOfRange => some (s ++ ": Numerical result out of range")
  | .noCharacter | .excess _ => none

/-- What an argument gives as a number, and what is wrong with it. -/
structure Converted (α : Type) where
  value : α
  fault : Option NumberFault := none

/-- The number of the character after a quote. -/
def characterNumber : List Char → Converted Nat
  | [] => ⟨0, some .noCharacter⟩
  | [c] => ⟨c.toNat, none⟩
  | c :: rest => ⟨c.toNat, some (.excess (String.ofList rest))⟩

/-- The digits of a number in the base that it announces, and what follows them. -/
def takeInteger (cs : List Char) : Nat × List Char × Bool :=
  let run (base : Nat) (cs : List Char) : Nat × List Char × Bool :=
    let good (c : Char) : Bool := match Real.hexDigit? c with
      | some v => v < base
      | none => false
    let ds := cs.takeWhile good
    ((ds.filterMap Real.hexDigit?).foldl (fun n v => n * base + v) 0, cs.drop ds.length, !ds.isEmpty)
  match cs with
  | '0' :: 'x' :: c :: rest | '0' :: 'X' :: c :: rest =>
    if (Real.hexDigit? c).isSome then run 16 (c :: rest) else (0, cs.drop 1, true)
  | '0' :: _ => run 8 cs
  | _ => run 10 cs

/-- The number that an argument spells. A quote stands for the number of the character after it. -/
def givenInteger (unsigned : Bool) (s : String) : Converted Int :=
  match s.toList with
  | [] => ⟨0, none⟩
  | '"' :: rest | '\'' :: rest => let g := characterNumber rest; ⟨g.value, g.fault⟩
  | cs =>
    let cs := cs.dropWhile isGap
    let (negative, ds) := match cs with
      | '-' :: r => (true, r)
      | '+' :: r => (false, r)
      | r => (false, r)
    let (n, rest, found) := takeInteger ds
    if !found then ⟨0, some .unreadable⟩
    else
      let v : Int := if negative then -(n : Int) else n
      let out := if unsigned then wordBound ≤ n else v < -halfBound || halfBound ≤ v
      if out then
        ⟨if unsigned then wordBound - 1 else if negative then -halfBound else halfBound - 1, some .outOfRange⟩
      else ⟨v, if rest.isEmpty then none else some .unfinished⟩

/-- The sign and the name of what is no finite number. -/
def notFinite? (s : String) : Option (Bool × String) :=
  match s.toLower with
  | "inf" | "+inf" | "infinity" => some (false, "inf")
  | "-inf" | "-infinity" => some (true, "inf")
  | "nan" | "+nan" => some (false, "nan")
  | "-nan" => some (true, "nan")
  | _ => none

/-- The real number that an argument spells, as a directive writes it. -/
def givenReal (k : Real.Kind) (d : Directive) (s : String) : Converted String :=
  let whole (n : Nat) : String := (k.round? n 1).elim "" (d.magnitude k false)
  match s.toList with
  | [] => ⟨whole 0, none⟩
  | '"' :: rest | '\'' :: rest => let g := characterNumber rest; ⟨whole g.value, g.fault⟩
  | cs =>
    match notFinite? s, Real.takeNumber (cs.dropWhile isGap) with
    | some (negative, name), _ => ⟨d.notFinite negative name, none⟩
    | none, none => ⟨whole 0, some .unreadable⟩
    | none, some (n, rest) =>
      match k.round? n.num n.den with
      | none => ⟨d.notFinite n.negative "inf", some .outOfRange⟩
      | some m =>
        ⟨d.magnitude k n.negative m,
          if k.losesBits n.num n.den m then some .outOfRange
          else if rest.isEmpty then none else some .unfinished⟩

/-! ### Formats -/

/-- What `printf` has written, its complaints, and its status. -/
structure Printed where
  text : String := ""
  complaints : List String := []
  status : Nat := 0
  /-- Whether the output ends here. -/
  stops : Bool := false
  deriving DecidableEq, Repr

namespace Printed

/-- What one more text adds. -/
def add (p : Printed) (s : String) : Printed := { p with text := p.text ++ s }

/-- What one more complaint adds. -/
def complain (p : Printed) (c : Option String) : Printed :=
  match c with
  | some c => { p with complaints := p.complaints ++ [c], status := max p.status 1 }
  | none => p

/-- An end with a complaint. -/
def abandon (p : Printed) (c : String) : Printed :=
  { p with complaints := p.complaints ++ [c], status := 2, stops := true }

end Printed

/-- An argument as a directive for numbers or characters writes it. -/
def valueText (k : Real.Kind) (d : Directive) (arg : String) : Converted String :=
  let word (write : Nat → String) : Converted String :=
    let g := givenInteger true arg
    ⟨write (g.value % wordBound).toNat, g.fault⟩
  match d.letter with
  | 's' => ⟨d.pad (match d.precision with
      | some n => String.ofList (arg.toList.take n)
      | none => arg), none⟩
  | 'c' => ⟨d.pad (String.ofList [arg.toList.headD '\x00']), none⟩
  | 'd' | 'i' => let g := givenInteger false arg; ⟨d.decimal g.value, g.fault⟩
  | 'u' => word fun n => d.padNumber d.precision.isNone "" (String.ofList (d.precise (Nat.toDigits 10 n)))
  | 'x' | 'X' => word (d.inBase 16)
  | 'o' => word (d.inBase 8)
  | _ => givenReal k d arg

/-- Writes a directive for an argument. -/
def writeDirective (p : Printed) (d : Directive) (arg : String) : Printed :=
  match d.letter with
  | 'b' =>
    let (text, stops) := escapedText arg
    let text := match d.precision with
      | some n => String.ofList (text.toList.take n)
      | none => text
    { p.add (d.pad text) with stops := stops }
  | _ =>
    let g := valueText .double d arg
    (p.complain (g.fault.bind (·.wording arg))).add g.value

/-- The letters of directives. -/
def letters : List Char := "diouxXcsbaAeEfFgG".toList

/-- A number, or a star for that of an argument: the number, what follows it, and the arguments left. -/
def takeSize (cs : List Char) (args : List String) : Option Int × List Char × List String :=
  match cs with
  | '*' :: rest => (some (givenInteger false (args.headD "")).value, rest, args.drop 1)
  | cs =>
    let ds := cs.takeWhile Char.isDigit
    if ds.isEmpty then (none, cs, args)
    else (some ((String.ofList ds).toNat?.getD 0 : Nat), cs.drop ds.length, args)

/-- The directive after a percent sign, what follows it, and the arguments left. -/
def readDirective (cs : List Char) (args : List String) : Directive × List Char × List String :=
  let flags := cs.takeWhile "-+ #0".toList.contains
  let (width, rest, args) := takeSize (cs.drop flags.length) args
  let (precision, rest, args) := match rest with
    | '.' :: rest =>
      let (p, rest, args) := takeSize rest args
      (some (p.getD 0), rest, args)
    | rest => (none, rest, args)
  let w := width.getD 0
  let flags := if w < 0 then '-' :: flags else flags
  let precision := match precision with
    | some p => if p < 0 then none else some p.toNat
    | none => none
  (⟨flags, w.natAbs, precision, rest.headD '\x00'⟩, rest.drop 1, args)

/-- Writes a format once; answers the arguments left over as well. -/
def writeFormat : Nat → Printed → List Char → List String → Printed × List String
  | 0, p, _, args => (p, args)
  | _, p, [], args => (p, args)
  | n + 1, p, '\\' :: rest, args =>
    let (text, rest) := readEscape rest
    writeFormat n (p.add (String.ofList text)) rest args
  | n + 1, p, '%' :: '%' :: rest, args => writeFormat n (p.add "%") rest args
  | n + 1, p, '%' :: rest, args =>
    let (d, after, args) := readDirective rest args
    if d.letter == '\x00' then (p.abandon "missing format character", args)
    else if !letters.contains d.letter then
      (p.abandon ("%" ++ String.ofList (rest.take (rest.length - after.length)) ++ ": invalid directive"),
        args)
    else
      let p := writeDirective p d (args.headD "")
      if p.stops then (p, []) else writeFormat n p after (args.drop 1)
  | n + 1, p, c :: rest, args => writeFormat n (p.add (String.ofList [c])) rest args

/-- Writes a format, again and again as long as it takes arguments and some are left. -/
def writeAll (format : List Char) : Nat → Printed → List String → Printed
  | 0, p, _ => p
  | n + 1, p, args =>
    let (p, left) := writeFormat (format.length + 1) p format args
    if p.stops || left.isEmpty || left.length = args.length then p else writeAll format n p left

/-- What `printf` writes. -/
def printf (args : List String) : Printed :=
  match args with
  | "--" :: [] | [] => ({} : Printed).abandon "usage: printf format [arg ...]"
  | "--" :: format :: args => writeAll format.toList (args.length + 1) {} args
  | format :: args =>
    match format.toList with
    | '-' :: c :: _ => ({} : Printed).abandon ("Illegal option -" ++ String.ofList [c])
    | cs => writeAll cs (args.length + 1) {} args

end ServerTrials.Client.Utility
