import ServerTrials.Client.Pattern
import ServerTrials.Client.Utility.Texts

/-!
Programs that work on the characters, fields and order of lines.
-/

namespace ServerTrials.Client.Utility

/-! ### Parts of lines -/

/-- Positions from one on: from a first to a last one, or to the end. -/
abbrev Span := Nat × Option Nat

/-- Whether spans hold a position. -/
def inSpans (spans : List Span) (n : Nat) : Bool :=
  spans.any fun s => s.1 ≤ n && (s.2.all fun m => n ≤ m)

/-- How complaints name what a list of spans counts. -/
structure Counted where
  all : String
  value : String
  span : String
  large : String

/-- Fields of lines. -/
def countedFields : Counted := ⟨"fields", "field value", "field range", "field number"⟩

/-- Characters of lines. -/
def countedChars : Counted :=
  ⟨"byte/character positions", "byte/character position", "byte or character range",
    "byte/character offset"⟩

/-- A span of a list as far as it has been read: its numbers, and whether its dash has come. -/
structure SpanReading where
  low : Option Nat := none
  dash : Bool := false
  high : Option Nat := none

/-- A span whose end has come. -/
def SpanReading.result (r : SpanReading) (counted : Counted) : Work Span := do
  match r.dash, r.low, r.high with
  | true, none, none => misuse "invalid range with no endpoint: -"
  | true, low, none => return (low.getD 1, none)
  | true, low, some m =>
    if m < low.getD 1 then misuse "invalid decreasing range"
    return (low.getD 1, some m)
  | false, some n, _ =>
    if n = 0 then misuse (counted.all ++ " are numbered from 1")
    return (n, some n)
  | false, none, _ => misuse (counted.all ++ " are numbered from 1")

/-- The largest number in a list of spans. -/
def largestPosition : Nat := 18446744073709551614

/-- The spans of a list. -/
def readSpans (counted : Counted) (r : SpanReading) (cs : List Char) : Work (List Span) := do
  match cs with
  | [] => return [← r.result counted]
  | '-' :: rest =>
    if r.dash then misuse ("invalid " ++ counted.span)
    if r.low = some 0 then misuse (counted.all ++ " are numbered from 1")
    readSpans counted { r with dash := true } rest
  | c :: rest =>
    if c == ',' || c == ' ' || c == '\t' then
      let first ← r.result counted
      return first :: (← readSpans counted {} rest)
    else if c.isDigit then
      let more (n : Option Nat) : Option Nat := some (n.getD 0 * 10 + (c.toNat - '0'.toNat))
      let r := if r.dash then { r with high := more r.high } else { r with low := more r.low }
      if ((if r.dash then r.high else r.low).getD 0) ≤ largestPosition then readSpans counted r rest
      else
        let number := toString ((if r.dash then r.high else r.low).getD 0)
        misuse (counted.large ++ " " ++ quotedText (number ++ String.ofList (rest.takeWhile Char.isDigit))
          ++ " is too large")
    else misuse ("invalid " ++ counted.value ++ " " ++ quotedText (String.ofList cs))

/-- The elements whose positions are chosen. -/
def chosen {α : Type} (keep : Nat → Bool) (xs : List α) : List α :=
  (xs.zipIdx.filter fun x => keep (x.2 + 1)).map (·.1)

/-- Writes parts of lines. -/
def cut : Program := do
  let (given, operands) ← options
    { letters := "b:c:f:d:nsOCz"
      names := [("bytes", 'b'), ("characters", 'c'), ("fields", 'f'), ("delimiter", 'd'),
        ("only-delimited", 's'), ("complement", 'C')] }
  let lists := given.filter fun g => "bcf".toList.contains g.1
  match lists with
  | [] => misuse "you must specify a list of bytes, characters, or fields"
  | _ :: _ :: _ => misuse "only one list may be specified"
  | [(kind, list)] => do
    let fields := kind == 'f'
    let spans ← readSpans (if fields then countedFields else countedChars) {} list.toList
    let delimiter ← match argument? given 'd' with
      | none => pure '\t'
      | some d =>
        if !fields then misuse "an input delimiter may be specified only when operating on fields"
        match d.toList with
        | [c] => pure c
        | [] => pure '\x00'
        | _ => misuse "the delimiter must be a single character"
    let keep (n : Nat) : Bool := inSpans spans n != has given 'C'
    let texts ← contents operands blamePath
    for (_, text) in texts do
      for line in linesOf text do
        if fields then
          if line.toList.contains delimiter then
            let d := String.ofList [delimiter]
            put (d.intercalate (chosen keep (line.splitOn d)) ++ "\n")
          else if !has given 's' then put (line ++ "\n")
        else put (String.ofList (chosen keep line.toList) ++ "\n")

/-! ### Characters -/

/-- What stands in a list of characters: characters, a range, or one repeated to fill up. -/
inductive Listed where
  | chars (cs : List Char)
  | fill (c : Char) (count : Nat)
  deriving DecidableEq, Repr

/-- All characters of a class, in order. -/
def classMembers (name : String) : List Char :=
  ((List.range 256).map Char.ofNat).filter (inClass name)

/-- The character at the front of a list, with escapes. -/
def listedChar : List Char → Option (Char × List Char)
  | '\\' :: c :: rest =>
    match c with
    | 'n' => some ('\n', rest)
    | 't' => some ('\t', rest)
    | 'r' => some ('\r', rest)
    | 'a' => some ('\x07', rest)
    | 'b' => some ('\x08', rest)
    | 'f' => some ('\x0c', rest)
    | 'v' => some ('\x0b', rest)
    | c =>
      if '0' ≤ c && c ≤ '7' then
        let ds := ((c :: rest).take 3).takeWhile fun d => '0' ≤ d && d ≤ '7'
        let n := ds.foldl (fun n d => n * 8 + (d.toNat - '0'.toNat)) 0
        if 255 < n then some (Char.ofNat (n / 8), (c :: rest).drop 2)
        else some (Char.ofNat n, (c :: rest).drop ds.length)
      else some (c, rest)
  | c :: rest => some (c, rest)
  | [] => none

/-- The characters that a text lists. -/
def readList : Nat → List Char → Work (List Listed)
  | 0, _ => return []
  | _, [] => return []
  | n + 1, cs => do
    let single : Work (List Listed) := do
      match listedChar cs with
      | none => return []
      | some (low, '-' :: rest) =>
        match listedChar rest with
        | some (high, rest) =>
          if high < low then
            let shownLow := String.ofList [low]
            let shownHigh := String.ofList [high]
            fail ("range-endpoints of '" ++ shownLow ++ "-" ++ shownHigh
              ++ "' are in reverse collating sequence order")
          else
            let range := (List.range (high.toNat - low.toNat + 1)).map fun k => Char.ofNat (low.toNat + k)
            return .chars range :: (← readList n rest)
        | none => return [.chars [low, '-']]
      | some (c, rest) => return .chars [c] :: (← readList n rest)
    match cs with
    | '[' :: ':' :: rest =>
      let name := String.ofList (rest.takeWhile Char.isAlpha)
      match rest.drop name.length with
      | ':' :: ']' :: rest =>
        if (classMembers name).isEmpty then fail ("invalid character class " ++ quotedText name)
        else return .chars (classMembers name) :: (← readList n rest)
      | _ => single
    | '[' :: '=' :: c :: '=' :: ']' :: rest => return .chars [c] :: (← readList n rest)
    | '[' :: rest =>
      match listedChar rest with
      | some (c, '*' :: rest) =>
        let ds := rest.takeWhile Char.isDigit
        match rest.drop ds.length with
        | ']' :: rest =>
          let base := if ds.head? == some '0' then 8 else 10
          let count := ds.foldl (fun n d => n * base + (d.toNat - '0'.toNat)) 0
          return .fill c count :: (← readList n rest)
        | _ => single
      | _ => single
    | _ => single

/-- The characters of a list that is to be as long as another one. -/
def spread (size : Nat) (ls : List Listed) : List Char :=
  let fixed := ls.foldl (fun n l =>
    match l with
    | .chars cs => n + cs.length
    | .fill _ k => n + k) 0
  ls.flatMap fun l =>
    match l with
    | .chars cs => cs
    | .fill c 0 => List.replicate (size - fixed) c
    | .fill c k => List.replicate k c

/-- Keeps one of neighbours that are the same. -/
def squeezed (among : List Char) : List Char → List Char
  | a :: b :: cs => if a == b && among.contains a then squeezed among (b :: cs) else a :: squeezed among (b :: cs)
  | cs => cs

/-- Replaces, takes away or joins characters. -/
def tr : Program := do
  let (given, operands) ← options
    { letters := "cCdst", ordered := true
      names := [("complement", 'c'), ("delete", 'd'), ("squeeze-repeats", 's'), ("truncate-set1", 't')] }
  let deletes := has given 'd'
  let squeezes := has given 's'
  let needed := if deletes != squeezes then 1 else 2
  match operands with
  | [] => misuse "missing operand"
  | [a] =>
    if needed = 2 then
      misuse ("missing operand after " ++ quotedText a ++ "\n" ++ (if deletes then
        "Two strings must be given when both deleting and squeezing repeats."
        else "Two strings must be given when translating."))
  | _ :: b :: rest => do
    if deletes && !squeezes then
      misuse ("extra operand " ++ quotedText b
        ++ "\nOnly one string may be given when deleting without squeezing repeats.")
    else
      match rest with
      | c :: _ => misuse ("extra operand " ++ quotedText c)
      | [] => pure ()
  let first := spread 0 (← readList (operands.headD "").length.succ (operands.headD "").toList)
  let complement := has given 'c' || has given 'C'
  let first := if complement then ((List.range 256).map Char.ofNat).filter fun c => !first.contains c else first
  let secondText := operands[1]?
  let second := spread first.length (← readList ((secondText.getD "").length + 1) (secondText.getD "").toList)
  let text ← match ← takeInput with
    | .ok text => pure text
    | .error e => fail ("read error: " ++ e)
  let cs := text.toList
  if deletes then
    let kept := cs.filter fun c => !first.contains c
    put (String.ofList (if squeezes then squeezed second kept else kept))
  else if secondText.isNone then put (String.ofList (squeezed first cs))
  else do
    if second.isEmpty && !has given 't' then
      fail "when not truncating set1, string2 must be non-empty"
    let last := second.getLast?
    let size := if has given 't' then min first.length second.length else first.length
    let table := ((first.take size).zipIdx.map fun p => (p.1, (second[p.2]?.or last).getD p.1)).reverse
    let lookup := (List.range 256).map fun n =>
      let c := Char.ofNat n
      ((table.find? (·.1 == c)).map (·.2)).getD c
    let array := lookup.toArray
    let changed := cs.map fun c => array[c.toNat]?.getD c
    put (String.ofList (if squeezes then squeezed second changed else changed))

/-! ### Repeated lines -/

/-- The part of a line that counts when lines are compared. -/
def comparedPart (given : List Given) (line : String) : String :=
  let number (c : Char) : Option Nat := (argument? given c).bind digits?
  let skipField (cs : List Char) : List Char :=
    (cs.dropWhile fun c => c == ' ' || c == '\t').dropWhile fun c => c != ' ' && c != '\t'
  let cs := ((List.range ((number 'f').getD 0)).foldl (fun cs _ => skipField cs) line.toList).drop
    ((number 's').getD 0)
  let cs := match number 'w' with
    | some n => cs.take n
    | none => cs
  String.ofList (if has given 'i' then cs.map Char.toLower else cs)

/-- Neighbouring lines that are the same, in groups. -/
def sameLines (key : String → String) (ls : List String) : List (List String) :=
  ls.splitBy fun a b => key a == key b

/-- Joins neighbouring lines that are the same. -/
def uniq : Program := do
  let args := (← read).args.map fun a =>
    match a.toList with
    | '-' :: c :: cs => if (c :: cs).all Char.isDigit then "-f" ++ String.ofList (c :: cs) else a
    | _ => a
  let (given, operands) ← Options.split
    { letters := "cdDuif:s:w:z", names := [("count", 'c'), ("repeated", 'd'), ("unique", 'u'),
        ("ignore-case", 'i'), ("skip-fields", 'f'), ("skip-chars", 's'), ("check-chars", 'w'),
        ("all-repeated", 'D')] } args
  atMost 2 operands
  match ← contentOf (operands.headD "-") with
  | .error e => fail (if e = "Is a directory" then "error reading " ++ quotedName (operands.headD "-") ++ ": " ++ e
      else blamePath (operands.headD "-") e)
  | .ok text => do
    let lines := (sameLines (comparedPart given) (linesOf text)).flatMap fun g =>
      let shows := (!has given 'd' || 1 < g.length) && (!has given 'u' || g.length = 1)
      if has given 'D' then (if 1 < g.length then g else [])
      else if shows then
        [(if has given 'c' then rightAligned 7 (toString g.length) ++ " " else "") ++ g.headD ""]
      else []
    match operands[1]? with
    | some path => store path (unlines lines)
    | none => putLines lines

/-! ### Order -/

/-- How lines or keys are compared. -/
structure Collation where
  numeric : Bool := false
  general : Bool := false
  human : Bool := false
  version : Bool := false
  month : Bool := false
  reverse : Bool := false
  anyCase : Bool := false
  blanks : Bool := false
  dictionary : Bool := false
  printing : Bool := false
  deriving DecidableEq, Repr

/-- The ordering after a letter; none if the letter does not stand for one. -/
def Collation.take (o : Collation) : Char → Option Collation
  | 'n' => some { o with numeric := true }
  | 'g' => some { o with general := true }
  | 'h' => some { o with human := true }
  | 'V' => some { o with version := true }
  | 'M' => some { o with month := true }
  | 'r' => some { o with reverse := true }
  | 'f' => some { o with anyCase := true }
  | 'b' => some { o with blanks := true }
  | 'd' => some { o with dictionary := true }
  | 'i' => some { o with printing := true }
  | _ => none

/-- A key: where it begins and ends in a line, and how it is compared. -/
structure Key where
  field : Nat
  char : Nat
  last : Option (Nat × Nat)
  ordering : Collation
  deriving DecidableEq, Repr

/-- A number with a fraction as its sign, its digits as one number, and how many are fractional. -/
def readNumber (cs : List Char) : Int × Nat :=
  let cs := cs.dropWhile fun c => c == ' ' || c == '\t'
  let (negative, cs) := match cs with
    | '-' :: r => (true, r)
    | r => (false, r)
  let whole := cs.takeWhile Char.isDigit
  let fraction := match cs.drop whole.length with
    | '.' :: r => r.takeWhile Char.isDigit
    | _ => []
  let n : Int := (whole ++ fraction).foldl (fun n c => n * 10 + (c.toNat - '0'.toNat : Nat)) 0
  (if negative then -n else n, fraction.length)

/-- The order of two numbers. -/
def compareNumbers (a b : Int × Nat) : Ordering := compare (a.1 * Nat.pow 10 b.2) (b.1 * Nat.pow 10 a.2)

/-- The rank of the letter after a number. -/
def humanRank (cs : List Char) : Nat :=
  let cs := cs.dropWhile fun c => c == ' ' || c == '-' || c.isDigit || c == '.'
  match cs with
  | c :: _ => (("KMGTPEZY".toList.idxOf? c).map (· + 1)).getD (if c == 'k' then 1 else 0)
  | [] => 0

/-- The order of texts in which runs of digits count as numbers. -/
def compareVersions : Nat → List Char → List Char → Ordering
  | 0, _, _ => .eq
  | n + 1, a, b =>
    let textA := a.takeWhile fun c => !c.isDigit
    let textB := b.takeWhile fun c => !c.isDigit
    let rank (c : Char) : Nat := if c.isAlpha then c.toNat else c.toNat + 256
    match compare (textA.map rank) (textB.map rank) with
    | .eq =>
      let a := a.drop textA.length
      let b := b.drop textB.length
      let numberA := a.takeWhile Char.isDigit
      let numberB := b.takeWhile Char.isDigit
      let value (ds : List Char) : Nat := ds.foldl (fun n c => n * 10 + (c.toNat - '0'.toNat)) 0
      match compare (value numberA) (value numberB) with
      | .eq => if a.isEmpty && b.isEmpty then .eq
        else compareVersions n (a.drop numberA.length) (b.drop numberB.length)
      | o => o
    | o => o

/-- The place of a month's name in the year. -/
def monthRank (cs : List Char) : Nat :=
  let name := String.ofList (((cs.dropWhile fun c => c == ' ' || c == '\t').take 3).map Char.toUpper)
  ((["JAN", "FEB", "MAR", "APR", "MAY", "JUN", "JUL", "AUG", "SEP", "OCT", "NOV", "DEC"].idxOf? name).map
    (· + 1)).getD 0

/-- The order of two texts. -/
def Collation.compareTexts (o : Collation) (a b : List Char) : Ordering :=
  let plain (cs : List Char) : List Char :=
    let cs := if o.dictionary then cs.filter fun c => c.isAlphanum || c == ' ' || c == '\t' else cs
    let cs := if o.printing then cs.filter fun c => 32 ≤ c.toNat && c.toNat < 127 else cs
    if o.anyCase then cs.map Char.toUpper else cs
  let result :=
    if o.numeric || o.general then compareNumbers (readNumber a) (readNumber b)
    else if o.human then
      let sign (cs : List Char) : Int := if (readNumber cs).1 < 0 then -1 else if (readNumber cs).1 = 0 then 0 else 1
      match compare (sign a) (sign b) with
      | .eq =>
        match compare (humanRank a) (humanRank b) with
        | .eq => compareNumbers (readNumber a) (readNumber b)
        | r => if sign a < 0 then r.swap else r
      | r => r
    else if o.version then compareVersions (a.length + b.length + 1) a b
    else if o.month then compare (monthRank a) (monthRank b)
    else compare ((plain a).map Char.toNat) ((plain b).map Char.toNat)
  if o.reverse then result.swap else result

/-- Where the fields of a line begin and end; without a separator a field begins with its blanks. -/
def fieldBounds (separator : Option Char) (cs : List Char) : List (Nat × Nat) :=
  match separator with
  | some c =>
    let parts := (String.ofList cs).splitOn (String.ofList [c])
    (parts.foldl (fun (acc : List (Nat × Nat) × Nat) p =>
      (acc.1 ++ [(acc.2, acc.2 + p.length)], acc.2 + p.length + 1)) ([], 0)).1
  | none =>
    let blank (c : Char) : Bool := c == ' ' || c == '\t' || c == '\n'
    let groups := cs.splitBy fun a b => !(!blank a && blank b)
    (groups.foldl (fun (acc : List (Nat × Nat) × Nat) g =>
      (acc.1 ++ [(acc.2, acc.2 + g.length)], acc.2 + g.length)) ([], 0)).1

/-- The part of a line that is a key. -/
def Key.part (k : Key) (separator : Option Char) (cs : List Char) : List Char :=
  let bounds := fieldBounds separator cs
  let blanksAt (n : Nat) : Nat := ((cs.drop n).takeWhile fun c => c == ' ' || c == '\t').length
  let startOf (f : Nat) : Nat := ((bounds[f - 1]?).map (·.1)).getD cs.length
  let skip (n : Nat) : Nat := if k.ordering.blanks then n + blanksAt n else n
  let start := min cs.length (skip (startOf k.field) + (k.char - 1))
  let stop := match k.last with
    | none => cs.length
    | some (f, 0) => ((bounds[f - 1]?).map (·.2)).getD cs.length
    | some (f, c) => min cs.length (skip (startOf f) + c)
  (cs.drop start).take (stop - start)

/-- The number before other characters. -/
def leadingNumber (cs : List Char) : Option (Nat × List Char) :=
  let ds := cs.takeWhile Char.isDigit
  (digits? (String.ofList ds)).map fun n => (n, cs.drop ds.length)

/-- A place in a key: a field, a character, and letters of an ordering. -/
def readPosition (default : Nat) (cs : List Char) : Option (Nat × Nat × List Char) := do
  let (field, rest) ← leadingNumber cs
  match rest with
  | '.' :: rest => do
    let (char, rest) ← leadingNumber rest
    some (field, char, rest)
  | rest => some (field, default, rest)

/-- The key that a text describes, before the ordering of all keys. -/
def readKey (s : String) : Option (Key × Bool) := do
  let orderings (o : Collation) (cs : List Char) : Option Collation := cs.foldlM Collation.take o
  match s.splitOn "," with
  | [a] => do
    let (f, c, letters) ← readPosition 1 a.toList
    let o ← orderings {} letters
    some (⟨f, c, none, o⟩, !letters.isEmpty)
  | [a, b] => do
    let (f, c, letters) ← readPosition 1 a.toList
    let (g, d, more) ← readPosition 0 b.toList
    let o ← orderings {} (letters ++ more)
    some (⟨f, c, some (g, d), o⟩, !(letters ++ more).isEmpty)
  | _ => none

/-- Puts lines in order. -/
def sort : Program := do
  let (given, operands) ← options
    { letters := "bcCdfghik:mMnrso:t:uVz", status := 2
      names := [("reverse", 'r'), ("numeric-sort", 'n'), ("unique", 'u'), ("key", 'k'),
        ("field-separator", 't'), ("ignore-case", 'f'), ("check", 'c'), ("output", 'o'), ("stable", 's'),
        ("general-numeric-sort", 'g'), ("human-numeric-sort", 'h'), ("version-sort", 'V'),
        ("ignore-leading-blanks", 'b'), ("dictionary-order", 'd'), ("month-sort", 'M'), ("merge", 'm')] }
  let separator ← match argument? given 't' with
    | none => pure none
    | some t =>
      match t.toList with
      | [c] => pure (some c)
      | ['\\', '0'] => pure (some '\x00')
      | [] => fail "empty tab" 2
      | _ => fail ("multi-character tab " ++ quotedText t) 2
  let whole := given.foldl (fun (o : Collation) g => (o.take g.1).getD o) {}
  let mut keys := []
  for g in given do
    if g.1 == 'k' then
      match readKey g.2 with
      | some (k, own) =>
        if k.field = 0 then fail ("-: invalid field specification " ++ quotedText g.2) 2
        keys := keys ++ [if own then k else { k with ordering := whole }]
      | none => fail ("invalid number at field start: invalid count at start of " ++ quotedText g.2) 2
  let r ← read
  let checks := has given 'c' || has given 'C'
  match checks, operands with
  | true, _ :: b :: _ =>
    fail ("extra operand " ++ quotedText b ++ " not allowed with -" ++ (if has given 'c' then "c" else "C")) 2
  | _, _ => pure ()
  for path in operands do
    if path ≠ "-" then
      match (← get).files.find r.cwd path with
      | .error e => fail ((if checks then "open failed: " else "cannot read: ") ++ blamePath path e.wording) 2
      | .ok _ => pure ()
  let texts ← contents operands (fun path e => "read failed: " ++ blamePath path e) 2
  if (← get).status ≠ 0 then stop
  let lines := texts.flatMap fun t => linesOf t.2
  let byKeys (a b : String) : Ordering :=
    let begun (s : String) : List Char :=
      if whole.blanks then s.toList.dropWhile fun c => c == ' ' || c == '\t' else s.toList
    if keys.isEmpty then whole.compareTexts (begun a) (begun b)
    else keys.foldl (fun acc k =>
      match acc with
      | .eq => k.ordering.compareTexts (k.part separator a.toList) (k.part separator b.toList)
      | o => o) .eq
  let plain : Bool := keys.isEmpty && whole == { reverse := whole.reverse }
  let compareLines (a b : String) : Ordering :=
    match byKeys a b with
    | .eq =>
      if has given 's' || has given 'u' || plain then .eq
      else
        let o := compare (a.toList.map Char.toNat) (b.toList.map Char.toNat)
        if whole.reverse then o.swap else o
    | o => o
  if checks then
    let rec firstWrong (n : Nat) : List String → Option (Nat × String)
      | a :: b :: rest =>
        let wrong := compareLines a b == .gt || (has given 'u' && byKeys a b == .eq)
        if wrong then some (n + 1, b) else firstWrong (n + 1) (b :: rest)
      | _ => none
    match firstWrong 1 lines with
    | some (n, line) => do
      if has given 'c' then
        complain (operands.headD "-" ++ ":" ++ toString n ++ ": disorder: " ++ line)
      leave 1
    | none => pure ()
  else do
    let ordered := lines.mergeSort fun a b => compareLines a b != .gt
    let kept := if has given 'u' then
        (ordered.splitBy fun a b => byKeys a b == .eq).filterMap List.head?
      else ordered
    match argument? given 'o' with
    | some path => store path (unlines kept)
    | none => putLines kept

end ServerTrials.Client.Utility
