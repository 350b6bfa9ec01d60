import ServerTrials.Client.Utility.Basic
import ServerTrials.Client.Utility.Printf

/-!
Programs that show the bytes of texts in other spellings, and one that copies bytes.
-/

namespace ServerTrials.Client.Utility

/-! ### Numbers for bytes -/

/-- How bytes are shown: as characters, by their names, or as numbers of a size in a base. -/
inductive Format where
  | char
  | named
  | number (base size : Nat) (signed : Bool)
  deriving DecidableEq, Repr

namespace Format

/-- A number in a base with leading zeros. -/
def inBase (base width n : Nat) : String :=
  let ds := Nat.toDigits base n
  String.ofList (List.replicate (width - ds.length) '0' ++ ds)

/-- How many bytes one shown thing takes. -/
def size : Format → Nat
  | .number _ n _ => n
  | _ => 1

/-- How wide a shown thing is, with the blank before it. -/
def width : Format → Nat
  | .char | .named => 4
  | .number 16 n _ => 2 * n + 1
  | .number 8 n _ => (8 * n + 2) / 3 + 1
  | .number _ 1 false => 4
  | .number _ 1 true => 5
  | .number _ 2 false => 6
  | .number _ 2 true => 7
  | .number _ 4 false => 11
  | .number _ 4 true => 12
  | .number _ _ false => 21
  | .number _ _ true => 21

/-- The names of the bytes that are no signs. -/
def names : List String :=
  ["nul", "soh", "stx", "etx", "eot", "enq", "ack", "bel", "bs", "ht", "nl", "vt", "ff", "cr", "so", "si",
    "dle", "dc1", "dc2", "dc3", "dc4", "nak", "syn", "etb", "can", "em", "sub", "esc", "fs", "gs", "rs", "us",
    "sp"]

/-- A byte as a character. -/
def charText (c : Char) : String :=
  match c with
  | '\x00' => "\\0"
  | '\x07' => "\\a"
  | '\x08' => "\\b"
  | '\t' => "\\t"
  | '\n' => "\\n"
  | '\x0b' => "\\v"
  | '\x0c' => "\\f"
  | '\r' => "\\r"
  | c => if 32 ≤ c.toNat && c.toNat < 127 then String.ofList [c] else inBase 8 3 c.toNat

/-- The text of some bytes, the least one first. -/
def text (f : Format) (cs : List Char) : String :=
  match f with
  | .char => charText (cs.headD '\x00')
  | .named =>
    let n := (cs.headD '\x00').toNat % 128
    if n = 127 then "del" else names[n]?.getD (String.ofList [Char.ofNat n])
  | .number base size signed =>
    let n := cs.foldr (fun c n => n * 256 + c.toNat) 0
    let bound := Nat.pow 256 size
    match base with
    | 16 => inBase 16 (2 * size) n
    | 8 => inBase 8 ((8 * size + 2) / 3) n
    | _ => if signed && bound ≤ 2 * n then "-" ++ toString (bound - n) else toString n

/-- A line of bytes. -/
def line (f : Format) (per : Nat) (cs : List Char) : String :=
  let padded := cs ++ List.replicate ((f.size - cs.length % f.size) % f.size) '\x00'
  let rec go : Nat → List Char → String
    | 0, _ => ""
    | n + 1, cs =>
      if cs.isEmpty then ""
      else rightAligned f.width (f.text (cs.take f.size)) ++ go n (cs.drop f.size)
  go per padded

/-- The format that a text such as `x1` names. -/
def ofText? (s : String) : Option Format :=
  match s.toList with
  | ['c'] => some .char
  | ['a'] => some .named
  | kind :: rest =>
    let size := match rest with
      | [] => some 4
      | ['C'] => some 1
      | ['S'] => some 2
      | ['I'] => some 4
      | ['L'] => some 8
      | ds => digits? (String.ofList ds)
    match size with
    | none => none
    | some n =>
      if !([1, 2, 4, 8].contains n) then none
      else
        match kind with
        | 'x' => some (.number 16 n false)
        | 'o' => some (.number 8 n false)
        | 'u' => some (.number 10 n false)
        | 'd' => some (.number 10 n true)
        | _ => none
  | [] => none

end Format

/-- The format of an option, and whether the characters stand after it. -/
def formatOf (g : Given) : Work (Option (Format × Bool)) := do
  match g.1 with
  | 'c' => return some (.char, false)
  | 'a' => return some (.named, false)
  | 'b' => return some (.number 8 1 false, false)
  | 'o' => return some (.number 8 2 false, false)
  | 'x' => return some (.number 16 2 false, false)
  | 'd' => return some (.number 10 2 false, false)
  | 's' => return some (.number 10 2 true, false)
  | 't' =>
    let withText := g.2.toList.getLast? == some 'z'
    match Format.ofText? (if withText then String.ofList g.2.toList.dropLast else g.2) with
    | some f => return some (f, withText)
    | none =>
      let c := g.2.toList.headD ' '
      if "acdfoux".toList.contains c then fail ("invalid type string " ++ quotedText g.2)
      else fail ("invalid character " ++ inQuotes (String.ofList [c]) ++ " in type string " ++ quotedText g.2)
  | _ => return none

/-- The characters of a row after what shows their bytes. -/
def rowText (f : Format) (per : Nat) (line : String) (row : List Char) : String :=
  let full := per / f.size * f.width
  let visible (c : Char) : Char := if 32 ≤ c.toNat && c.toNat < 127 then c else '.'
  String.ofList (List.replicate (full - line.length) ' ') ++ "  >" ++ String.ofList (row.map visible) ++ "<"

/-- The number of bytes that an operand asks to skip: in base eight, in base ten with a point, or in base
sixteen, and in blocks with a letter. -/
def oldOffset? (s : String) : Option Nat :=
  let cs := if s.toList.head? == some '+' then s.toList.drop 1 else s.toList
  let (body, size) := match cs.getLast? with
    | some 'b' => (cs.dropLast, 512)
    | some 'B' => (cs.dropLast, 1024)
    | _ => (cs, 1)
  let (base, ds) := match body with
    | '0' :: 'x' :: ds | '0' :: 'X' :: ds => (16, ds)
    | ds => if ds.contains '.' then (10, ds.filter (· != '.')) else (8, ds)
  let values := ds.filterMap Real.hexDigit?
  if values.length = ds.length && !ds.isEmpty && values.all (· < base) && (cs.head?.map Char.isDigit).getD false
  then some (values.foldl (fun n d => n * base + d) 0 * size) else none

/-- Shows the bytes of files. -/
def od : Program := do
  let (given, operands) ← options
    { letters := "A:j:N:t:vw:abcdoxs", names := [("address-radix", 'A'), ("skip-bytes", 'j'),
        ("read-bytes", 'N'), ("format", 't'), ("width", 'w'), ("output-duplicates", 'v')] }
  let formats := (← given.mapM formatOf).filterMap id
  let formats := if formats.isEmpty then [(Format.number 8 2 false, false)] else formats
  let (operands, old) := match operands with
    | [a, b] => if given.any fun g => "AjNtvw".toList.contains g.1 then (operands, none) else
      match oldOffset? b with
      | some n => ([a], some n)
      | none => (operands, none)
    | [a] => if a.toList.head? == some '+' && given.all (fun g => !"AjNtvw".toList.contains g.1) then
      match oldOffset? a with
      | some n => ([], some n)
      | none => (operands, none)
      else (operands, none)
    | _ => (operands, none)
  let texts ← contents operands blamePath
  let skipped := (((argument? given 'j').bind size?).orElse fun _ => old).getD 0
  let all := (String.join (texts.map (·.2))).toList.drop skipped
  let cs := match (argument? given 'N').bind size? with
    | some n => all.take n
    | none => all
  let per := ((argument? given 'w').bind digits?).getD 16
  let address (n : Nat) : String :=
    match argument? given 'A' with
    | some "n" => ""
    | some "d" => Format.inBase 10 7 n
    | some "x" => Format.inBase 16 6 n
    | _ => Format.inBase 8 7 n
  let blank := String.ofList (List.replicate (address 0).length ' ')
  let rec rows (n offset : Nat) (last : Option (List Char)) (starred : Bool) (cs : List Char) : List String :=
    match n with
    | 0 => []
    | n + 1 =>
      if cs.isEmpty then []
      else
        let row := cs.take per
        if last == some row && !has given 'v' && row.length = per then
          (if starred then [] else ["*"]) ++ rows n (offset + per) last true (cs.drop per)
        else
          (formats.zipIdx.map fun f =>
            let line := f.1.1.line per row
            (if f.2 = 0 then address offset else blank) ++ line
              ++ (if f.1.2 then rowText f.1.1 per line row else ""))
            ++ rows n (offset + row.length) (some row) false (cs.drop per)
  if 0 < per then putLines (rows (cs.length + 1) skipped none false cs)
  if argument? given 'A' ≠ some "n" && (← get).status = 0 then put (address (skipped + cs.length) ++ "\n")

/-! ### Sixty-four signs -/

/-- The signs of base sixty-four. -/
def signs64 : List Char :=
  "ABCDEFGHIJKLMNOPQRSTUVWXYZabcdefghijklmnopqrstuvwxyz0123456789+/".toList

/-- A text in base sixty-four. -/
def encode64 : List Char → List Char
  | [] => []
  | [a] =>
    let n := a.toNat * 16
    [sign (n / 64), sign (n % 64), '=', '=']
  | [a, b] =>
    let n := (a.toNat * 256 + b.toNat) * 4
    [sign (n / 4096), sign (n / 64 % 64), sign (n % 64), '=']
  | a :: b :: c :: rest =>
    let n := (a.toNat * 256 + b.toNat) * 256 + c.toNat
    sign (n / 262144) :: sign (n / 4096 % 64) :: sign (n / 64 % 64) :: sign (n % 64) :: encode64 rest
where
  /-- The sign of a number below sixty-four. -/
  sign (n : Nat) : Char := signs64[n]?.getD '='

/-- The text that signs of base sixty-four spell. -/
def decode64 : List Char → Option (List Char)
  | [] => some []
  | a :: b :: c :: d :: rest =>
    match signs64.idxOf? a, signs64.idxOf? b, signs64.idxOf? c, signs64.idxOf? d with
    | some x, some y, some z, some w => do
      let n := ((x * 64 + y) * 64 + z) * 64 + w
      let more ← decode64 rest
      some (Char.ofNat (n / 65536) :: Char.ofNat (n / 256 % 256) :: Char.ofNat (n % 256) :: more)
    | some x, some y, some z, none =>
      if d == '=' && rest.isEmpty then
        let n := ((x * 64 + y) * 64 + z) / 4
        some [Char.ofNat (n / 256), Char.ofNat (n % 256)]
      else none
    | some x, some y, none, none =>
      if c == '=' && d == '=' && rest.isEmpty then some [Char.ofNat ((x * 64 + y) / 16)] else none
    | _, _, _, _ => none
  | _ => none

/-- Characters cut into lines of a width. -/
def wrapped (width : Nat) : Nat → List Char → List String
  | 0, _ => []
  | n + 1, cs => if cs.isEmpty then [] else String.ofList (cs.take width) :: wrapped width n (cs.drop width)

/-- Writes texts in base sixty-four, or reads them back. -/
def base64 : Program := do
  let (given, operands) ← options
    { letters := "dDiw:", names := [("decode", 'd'), ("wrap", 'w'), ("ignore-garbage", 'i')] }
  atMost 1 operands
  let texts ← contents operands blamePath
  let cs := (String.join (texts.map (·.2))).toList
  if has given 'd' then
    match decode64 (cs.filter (· != '\n')) with
    | some text => put (String.ofList text)
    | none => fail "invalid input"
  else
    let width := ((argument? given 'w').bind digits?).getD 76
    let out := encode64 cs
    if width = 0 then put (String.ofList out) else putLines (wrapped width (out.length + 1) out)

/-! ### Copies -/

/-- Copies blocks of bytes. -/
def dd : Program := do
  let r ← read
  let settings := r.args.map fun a =>
    match a.splitOn "=" with
    | name :: rest => (name, "=".intercalate rest)
    | [] => ("", "")
  for (name, value) in settings do
    if !(["if", "of", "bs", "ibs", "obs", "count", "skip", "seek", "conv", "status"].contains name) then
      misuse ("unrecognized operand " ++ quotedText (name ++ "=" ++ value))
  let setting (name : String) : Option String := (settings.reverse.find? (·.1 == name)).map (·.2)
  let size := ((setting "bs").bind size?).getD 512
  let text ← match ← contentOf ((setting "if").getD "-") with
    | .ok text => pure text
    | .error e => fail ("failed to open " ++ quotedName ((setting "if").getD "-") ++ ": " ++ e)
  let cs := text.toList.drop (size * ((setting "skip").bind size?).getD 0)
  let taken := match (setting "count").bind size? with
    | some n => cs.take (size * n)
    | none => cs
  if taken.length < cs.length then modify ({ · with slept := some 0 })
  match setting "of" with
  | some path => store path (String.ofList taken)
  | none => put (String.ofList taken)
  let records := toString (taken.length / size) ++ "+" ++ (if taken.length % size = 0 then "0" else "1")
  if setting "status" ≠ some "none" then
    warn (unlines [records ++ " records in", records ++ " records out",
      toString taken.length ++ " bytes copied, 0.0001 s, 0.0 kB/s"])

end ServerTrials.Client.Utility
