import ServerTrials.Client.Utility.Basic

/-!
Programs that pass texts on, whole or in part, line by line.
-/

namespace ServerTrials.Client.Utility

/-- The lines of a text, each with its line end if it has one. -/
def endedLines (s : String) : List String :=
  let parts := s.splitOn "\n"
  (parts.dropLast.map (· ++ "\n")) ++ (if parts.getLast? = some "" then [] else parts.getLast?.toList)

/-! ### Whole texts -/

/-- A character as `cat` shows it. -/
def visible (tabs : Bool) (c : Char) : String :=
  let low (n : Nat) : String :=
    if n = 9 && !tabs then "\t"
    else if n < 32 then String.ofList ['^', Char.ofNat (n + 64)]
    else if n = 127 then "^?"
    else String.ofList [Char.ofNat n]
  if c.toNat < 128 then low c.toNat
  else "M-" ++ (if c.toNat - 128 = 9 then "^I" else low (c.toNat - 128))

/-- How `cat` changes lines. -/
structure Dressing where
  ends : Bool
  tabs : Bool
  marks : Bool
  squeeze : Bool
  numbers : Bool
  numbersText : Bool

/-- The lines as they are shown; `n` counts them, and `blanks` the empty ones just before. -/
def Dressing.lines (d : Dressing) : Nat → Nat → List String → List String
  | _, _, [] => []
  | n, blanks, l :: ls =>
    let ended := l.toList.getLast? == some '\n'
    let body := if ended then String.ofList l.toList.dropLast else l
    let blank := body = ""
    if d.squeeze && blank && 0 < blanks then d.lines n (blanks + 1) ls
    else
      let counts := if d.numbersText then !blank else d.numbers
      let number := if counts then rightAligned 6 (toString (n + 1)) ++ "\t" else ""
      let shown := if d.marks then String.join (body.toList.map (visible d.tabs))
        else if d.tabs then body.replace "\t" "^I" else body
      let line := number ++ shown ++ (if ended then (if d.ends then "$\n" else "\n") else "")
      line :: d.lines (if counts then n + 1 else n) (if blank then blanks + 1 else 0) ls

/-- Writes files one after the other. The input comes out as it comes in. -/
def cat : Program := do
  let (given, operands) ← options
    { letters := "AbeEnstTuv"
      names := [("show-all", 'A'), ("number-nonblank", 'b'), ("show-ends", 'E'), ("number", 'n'),
        ("squeeze-blank", 's'), ("show-tabs", 'T'), ("show-nonprinting", 'v')] }
  let any (cs : String) : Bool := cs.toList.any (has given)
  let d : Dressing := ⟨any "AeE", any "AtT", any "Aetv", any "s", any "n", any "b"⟩
  let r ← read
  if !r.writes then fail "standard output: Bad file descriptor"
  if given.isEmpty && (operands.isEmpty || operands == ["-"]) then
    match r.input, ← takeInput with
    | .pieces ps, .ok _ => modify fun e => { e with
        written := (ps.map fun p => ⟨1, String.ofList p.2, some p.1, none⟩ : List Written).reverse ++ e.written }
    | _, .ok _ => pure ()
    | _, .error e => do
      complain ("-: " ++ e)
      match r.input with
      | .closed => complain "closing standard input: Bad file descriptor"
      | _ => pure ()
  else if d.marks || d.ends || d.tabs || d.squeeze || d.numbers || d.numbersText then
    let texts ← contents operands blamePath
    put (String.join (d.lines 0 0 (endedLines (String.join (texts.map (·.2))))))
  else
    for path in (if operands.isEmpty then ["-"] else operands) do
      match ← contentOf path with
      | .ok text => put text
      | .error e => complain (blamePath path e)

/-- Writes the lines of files, the last one first. -/
def tac : Program := do
  let (_, operands) ← options { letters := "" }
  let texts ← contents operands fun path e => if e = "Is a directory" then blamePath path "read error: Invalid argument"
    else "failed to open " ++ quotedName path ++ " for reading: " ++ e
  for (_, text) in texts do
    put (String.join (endedLines text).reverse)

/-- Writes lines with their characters turned round. -/
def rev : Program := do
  let (_, operands) ← options { letters := "" }
  let texts ← contents operands fun path e => "cannot open " ++ path ++ ": " ++ e
  for (_, text) in texts do
    put (String.join ((endedLines text).map fun l =>
      let body := l.toList.filter (· != '\n')
      String.ofList (body.reverse ++ (if l.toList.getLast? == some '\n' then ['\n'] else []))))

/-- Writes the input to the output and into files. -/
def tee : Program := do
  let (given, operands) ← options
    { letters := "aip", names := [("append", 'a'), ("ignore-interrupts", 'i')] }
  let r ← read
  let text ← match ← takeInput with
    | .ok text => pure text
    | .error e => do
      complain ("read error: " ++ e)
      pure ""
  put text
  for path in operands do
    let d ← get
    match d.files.target r.cwd path with
    | .ok (place, node) =>
      match node with
      | some (.device _) => pure ()
      | some .directory => complain (path ++ ": Is a directory")
      | some (.file old runs) =>
        set { d with files := d.files.put place (.file (if has given 'a' then old ++ text else text) runs) }
      | none => set { d with files := d.files.put place (.file text false) }
    | .error e => complain (path ++ ": " ++ e.wording)

/-! ### Parts of texts -/

/-- Old calls give a number as an option of its own. -/
def spellCounts (args : List String) : List String :=
  match args with
  | a :: rest =>
    match a.toList with
    | '-' :: c :: cs => if (c :: cs).all Char.isDigit then ("-n" ++ String.ofList (c :: cs)) :: rest else args
    | _ => args
  | [] => []

/-- Which part of a text is meant: so many lines or bytes. -/
structure Share where
  bytes : Bool
  sign : Option Char
  count : Nat

/-- The share that options ask for; ten lines if they ask for none. -/
def share (given : List Given) : Work Share := do
  match given.reverse.find? fun g => g.1 == 'n' || g.1 == 'c' with
  | none => return ⟨false, none, 10⟩
  | some (c, text) =>
    let (sign, digits) := match text.toList with
      | '-' :: cs => (some '-', String.ofList cs)
      | '+' :: cs => (some '+', String.ofList cs)
      | cs => (none, String.ofList cs)
    match size? digits with
    | some n => return ⟨c == 'c', sign, n⟩
    | none => fail ("invalid number of " ++ (if c == 'c' then "bytes" else "lines") ++ ": " ++ quotedText text)

/-- The first part of a text, or all but the last. -/
def Share.first (s : Share) (text : String) : String :=
  if s.bytes then
    let cs := text.toList
    String.ofList (if s.sign == some '-' then cs.take (cs.length - s.count) else cs.take s.count)
  else
    let ls := endedLines text
    String.join (if s.sign == some '-' then ls.take (ls.length - s.count) else ls.take s.count)

/-- The last part of a text, or all from a place on. -/
def Share.last (s : Share) (text : String) : String :=
  if s.bytes then
    let cs := text.toList
    String.ofList (if s.sign == some '+' then cs.drop (s.count - 1) else cs.drop (cs.length - s.count))
  else
    let ls := endedLines text
    String.join (if s.sign == some '+' then ls.drop (s.count - 1) else ls.drop (ls.length - s.count))

/-- Writes a part of each file, under its name if that is asked for or there are several. -/
def writeShares (given : List Given) (operands : List String) (part : String → String) : Work Unit := do
  let named := (1 < operands.length || has given 'v') && !has given 'q'
  let mut first := true
  for path in (if operands.isEmpty then ["-"] else operands) do
    match ← contentOf path with
    | .ok text => do
      if named then
        put ((if first then "" else "\n") ++ "==> " ++ (if path = "-" then "standard input" else path)
          ++ " <==\n")
      first := false
      put (part text)
    | .error e =>
      if e = "Is a directory" then complain ("error reading " ++ quotedName path ++ ": " ++ e)
      else complain (blameOpening path e)

/-- The options of programs that write parts of files. -/
def shareOptions : Options :=
  { letters := "n:c:qvfz", names := [("lines", 'n'), ("bytes", 'c'), ("quiet", 'q'), ("silent", 'q'),
      ("verbose", 'v'), ("follow", 'f')] }

/-- Writes the first parts of files. -/
def head : Program := do
  let (given, operands) ← shareOptions.split (spellCounts (← read).args)
  let s ← share given
  writeShares given operands s.first
  modify ({ · with slept := some 0 })
  if s.sign ≠ some '-' && operands.isEmpty then
    match (← read).input with
    | .pieces ps =>
      let size := (s.first (String.ofList (ps.flatMap (·.2)))).length
      let all := (ps.map (·.2.length)).foldl (· + ·) 0
      if size < all || !s.bytes && size = all && s.count ≤ (endedLines (String.ofList (ps.flatMap (·.2)))).length then
        modify ({ · with takes := some size })
    | _ => pure ()

/-- Writes the last parts of files. -/
def tail : Program := do
  let args := match (← read).args with
    | a :: rest =>
      match a.toList with
      | '+' :: c :: cs =>
        if (c :: cs).all Char.isDigit then ("-n+" ++ String.ofList (c :: cs)) :: rest else a :: rest
      | _ => spellCounts (a :: rest)
    | [] => []
  let (given, operands) ← shareOptions.split args
  let s ← share given
  writeShares given operands s.last
  if has given 'f' then modify ({ · with slept := none })

/-! ### Counts -/

/-- The number of words in a text. -/
def wordCount (cs : List Char) : Nat :=
  (cs.foldl (fun (acc : Nat × Bool) c =>
    if isGap c then (acc.1, false) else if acc.2 then acc else (acc.1 + 1, true)) (0, false)).1

/-- The length of the longest line. -/
def longestLine (text : String) : Nat := (linesOf text).foldl (fun n l => max n l.length) 0

/-- Counts lines, words and bytes. -/
def wc : Program := do
  let (given, operands) ← options
    { letters := "clmwL", names := [("bytes", 'c'), ("chars", 'm'), ("lines", 'l'), ("words", 'w'),
        ("max-line-length", 'L')] }
  let all := given.isEmpty
  let counts (text : String) : List Nat :=
    (if all || has given 'l' then [text.toList.count '\n'] else []) ++
    (if all || has given 'w' then [wordCount text.toList] else []) ++
    (if has given 'm' then [text.length] else []) ++
    (if all || has given 'c' then [text.length] else []) ++
    (if has given 'L' then [longestLine text] else [])
  let texts ← contents operands fun path e =>
    if path = "" then "invalid zero-length file name" else blamePath path e
  let rows := texts.map fun t => (counts t.2, if operands.isEmpty then "" else " " ++ t.1)
  let total := rows.foldl (fun acc r => if acc.isEmpty then r.1 else List.zipWith (· + ·) acc r.1) []
  let rows := if 1 < operands.length then rows ++ [(total, " total")] else rows
  let bytes := (texts.map (·.2.length)).foldl (· + ·) 0
  let single := (counts "").length ≤ 1 && operands.length ≤ 1
  let width := if single then 1
    else if operands.isEmpty || operands.contains "-" then 7 else (toString bytes).length
  for (ns, name) in rows do
    put (" ".intercalate (ns.map fun n => rightAligned width (toString n)) ++ name ++ "\n")

/-! ### Numbers before lines -/

/-- The lines with their numbers. -/
def numbered (all none_ : Bool) (width : Nat) (gap : String) (step : Nat) : Nat → List String → List String
  | _, [] => []
  | n, l :: ls =>
    let body := String.ofList (l.toList.filter (· != '\n'))
    if !none_ && (all || body ≠ "") then
      (rightAligned width (toString n) ++ gap ++ body ++ "\n") :: numbered all none_ width gap step (n + step) ls
    else
      (String.ofList (List.replicate (width + gap.length) ' ') ++ body ++ "\n")
        :: numbered all none_ width gap step n ls

/-- Numbers lines. -/
def nl : Program := do
  let (given, operands) ← options { letters := "b:d:f:h:i:l:n:ps:v:w:" }
  for (c, what) in [('b', "body"), ('f', "footer"), ('h', "header")] do
    let style := (argument? given c).getD "t"
    if !(["a", "t", "n"].contains style) && style.toList.head? != some 'p' then
      misuse ("invalid " ++ what ++ " numbering style: " ++ quotedText style)
  let layout := (argument? given 'n').getD "rn"
  if !(["ln", "rn", "rz"].contains layout) then misuse ("invalid line numbering format: " ++ quotedText layout)
  let texts ← contents operands blamePath
  let number (c : Char) (default : Nat) : Nat := ((argument? given c).bind digits?).getD default
  let kind := (argument? given 'b').getD "t"
  put (String.join (numbered (kind == "a") (kind == "n") (number 'w' 6) ((argument? given 's').getD "\t")
    (number 'i' 1) (number 'v' 1) (endedLines (String.join (texts.map (·.2))))))

/-! ### Widths -/

/-- A line cut into pieces of a width. -/
def foldLine (width : Nat) (spaces : Bool) : Nat → List Char → List (List Char)
  | 0, cs => [cs]
  | n + 1, cs =>
    if cs.length ≤ width then [cs]
    else
      let piece := cs.take width
      let kept := if spaces then (piece.reverse.dropWhile fun c => c != ' ' && c != '\t').reverse else piece
      let piece := if kept.isEmpty then piece else kept
      piece :: foldLine width spaces n (cs.drop piece.length)

/-- Cuts lines at a width. -/
def fold : Program := do
  let args := (← read).args.map fun a =>
    match a.toList with
    | '-' :: c :: cs => if (c :: cs).all Char.isDigit then "-w" ++ String.ofList (c :: cs) else a
    | _ => a
  let (given, operands) ← Options.split { letters := "bsw:", names := [("width", 'w')] } args
  let width ← match argument? given 'w' with
    | some w =>
      match digits? w with
      | some 0 | none => fail ("invalid number of columns: " ++ quotedText w)
      | some n => pure n
    | none => pure 80
  let texts ← contents operands blamePath
  for (_, text) in texts do
    for l in endedLines text do
      let body := l.toList.filter (· != '\n')
      let pieces := foldLine width (has given 's') body.length body
      put ("\n".intercalate (pieces.map String.ofList) ++ (if l.toList.getLast? == some '\n' then "\n" else ""))

/-- A line in which blanks stand for tabs; columns count from one that is given. -/
def expanded (size : Nat) : Nat → List Char → List Char
  | _, [] => []
  | column, '\t' :: cs =>
    let n := size - column % size
    List.replicate n ' ' ++ expanded size (column + n) cs
  | _, '\n' :: cs => '\n' :: expanded size 0 cs
  | column, c :: cs => c :: expanded size (column + 1) cs

/-- Puts blanks in place of tabs. -/
def expand : Program := do
  let args := (← read).args.map fun a =>
    match a.toList with
    | '-' :: c :: cs => if (c :: cs).all Char.isDigit then "-t" ++ String.ofList (c :: cs) else a
    | _ => a
  let (given, paths) ← Options.split { letters := "it:", names := [("tabs", 't'), ("initial", 'i')] } args
  let size ← match argument? given 't' with
    | none => pure 8
    | some t =>
      match digits? t with
      | some 0 => fail "tab size cannot be 0"
      | some n => pure n
      | none => fail ("tab size contains invalid character(s): " ++ quotedText t)
  for (_, text) in ← contents paths blamePath do
    put (String.ofList (expanded size 0 text.toList))

/-! ### Several texts -/

/-- The characters of a list of separators. -/
def separators (s : String) : List String :=
  let rec go : List Char → List String
    | [] => []
    | '\\' :: 'n' :: cs => "\n" :: go cs
    | '\\' :: 't' :: cs => "\t" :: go cs
    | '\\' :: '\\' :: cs => "\\" :: go cs
    | '\\' :: '0' :: cs => "" :: go cs
    | c :: cs => String.ofList [c] :: go cs
  go s.toList

/-- Texts joined by separators that take turns. -/
def joinTurning (seps : List String) : Nat → List String → String
  | _, [] => ""
  | _, [t] => t
  | n, t :: ts => t ++ (seps[n % seps.length]?.getD "\t") ++ joinTurning seps (n + 1) ts

/-- Sets files side by side. -/
def paste : Program := do
  let (given, operands) ← options { letters := "d:sz", names := [("delimiters", 'd'), ("serial", 's')] }
  let seps := separators ((argument? given 'd').getD "\t")
  let seps := if seps.isEmpty then [""] else seps
  let inputs := operands.filter (· = "-")
  let r ← read
  if !has given 's' then
    for path in operands do
      if path ≠ "-" then
        match (← get).files.find r.cwd path with
        | .error e => fail (blamePath path e.wording)
        | .ok _ => pure ()
  let texts ← contents operands blamePath
  let columns := texts.map fun t => linesOf t.2
  if has given 's' then
    for c in columns do
      put (joinTurning seps 0 c ++ "\n")
  else
    let dealt := if 1 < inputs.length then
        let all := ((texts.find? (·.1 = "-")).map fun t => linesOf t.2).getD []
        let k := inputs.length
        let turn (i : Nat) : List String := (all.zipIdx.filter fun l => l.2 % k = i).map (·.1)
        (texts.foldl (fun (acc : List (List String) × Nat) t =>
          if t.1 = "-" then (acc.1 ++ [turn acc.2], acc.2 + 1) else (acc.1 ++ [linesOf t.2], acc.2)) ([], 0)).1
      else columns
    let rows := dealt.foldl (fun n c => max n c.length) 0
    for i in List.range rows do
      put (joinTurning seps 0 (dealt.map fun column => column[i]?.getD "") ++ "\n")

/-- The lines of two texts in order, each with the column it belongs to. -/
def merged : Nat → List String → List String → List (Nat × String)
  | 0, _, _ => []
  | _, [], bs => bs.map (2, ·)
  | _, as, [] => as.map (1, ·)
  | n + 1, a :: as, b :: bs =>
    if a = b then (3, a) :: merged n as bs
    else if a < b then (1, a) :: merged n as (b :: bs)
    else (2, b) :: merged n (a :: as) bs

/-- Compares two texts whose lines are in order. -/
def comm : Program := do
  let (given, operands) ← options { letters := "123" }
  match operands with
  | [a, b] => do
    let read (path : String) : Work (List String) := do
      match ← contentOf path with
      | .ok text => return linesOf text
      | .error e => fail (blamePath path e)
    let xs ← read a
    let ys ← read b
    let hidden (n : Nat) : Bool := has given (Char.ofNat (n + '0'.toNat))
    for (n, line) in merged (xs.length + ys.length + 1) xs ys do
      if !hidden n then
        let tabs := ((List.range (n - 1)).filter fun k => !hidden (k + 1)).length
        put (String.ofList (List.replicate tabs '\t') ++ line ++ "\n")
  | [] => misuse "missing operand"
  | [a] => misuse ("missing operand after " ++ quotedText a)
  | _ :: _ :: c :: _ => misuse ("extra operand " ++ quotedText c)

end ServerTrials.Client.Utility
