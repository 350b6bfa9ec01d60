import ServerTrials.Client.Regex.Reader
import ServerTrials.Client.Utility.Basic

/-!
The program that looks for lines.
-/

namespace ServerTrials.Client.Utility

/-- What is looked for in lines and what is written about them. -/
structure Search where
  patterns : List Regex
  style : Regex.Style
  inverted : Bool
  parts : Bool
  numbers : Bool
  most : Option Nat
  before : Nat
  after : Nat

namespace Search

/-- Whether a line is one that is looked for. -/
def selects (s : Search) (line : String) : Bool :=
  (s.patterns.any fun r => (r.find s.style line.toList 0).isSome) != s.inverted

/-- The parts of a line that match, from left to right. -/
def partsFrom (s : Search) (cs : List Char) : Nat → Nat → List String
  | 0, _ => []
  | n + 1, offset =>
    let found := s.patterns.filterMap fun r => r.find s.style cs offset
    let best := found.foldl (fun (acc : Option Regex.Match) m =>
      match acc with
      | none => some m
      | some b => if m.start < b.start || (m.start = b.start && b.stop < m.stop) then some m else acc) none
    match best with
    | none => []
    | some m =>
      if m.start = m.stop then s.partsFrom cs n (m.start + 1)
      else String.ofList (m.taken cs 0) :: s.partsFrom cs n m.stop

/-- The parts of a line that match. -/
def partsOf (s : Search) (line : String) : List String := s.partsFrom line.toList (line.length + 2) 0

/-- The numbers of the lines that are looked for, from one on. -/
def selected (s : Search) (lines : List String) : List Nat :=
  let all := (lines.zipIdx.filter fun l => s.selects l.1).map (·.2 + 1)
  match s.most with
  | some n => all.take n
  | none => all

/-- What is written before a line: the name of its file and its number, each with a sign after it. -/
def label (s : Search) (name : Option String) (number : Nat) (sign : String) : String :=
  ((name.map (· ++ sign)).getD "") ++ (if s.numbers then toString number ++ sign else "")

/-- The output for a file, with the lines around those that are looked for. -/
def output (s : Search) (name : Option String) (lines : List String) (hits : List Nat) : List String :=
  let around := 0 < s.before || 0 < s.after
  let near (n : Nat) : Bool := hits.any fun h => h ≤ n + s.before && n ≤ h + s.after
  let numbered := (lines.zipIdx.map fun l => (l.2 + 1, l.1)).filter fun l => near l.1
  let (out, _) := numbered.foldl (fun (acc : List String × Option Nat) l =>
    let gap := match acc.2 with
      | some last => around && last + 1 < l.1
      | none => false
    let hit := hits.contains l.1
    let own := if hit && s.parts then
        (if s.inverted then [] else (s.partsOf l.2).map (s.label name l.1 ":" ++ ·))
      else if s.parts then []
      else [s.label name l.1 (if hit then ":" else "-") ++ l.2]
    (acc.1 ++ (if gap then ["--"] else []) ++ own, some l.1)) ([], none)
  out

end Search

/-- The options of the program that looks for lines. -/
def searchOptions : Options :=
  { letters := "e:f:ivwxcnlLqsohHm:A:B:C:EFGPrRaz", status := 2
    usage := "Usage: grep [OPTION]... PATTERNS [FILE]...\n"
    names := [("regexp", 'e'), ("file", 'f'), ("ignore-case", 'i'), ("invert-match", 'v'),
      ("word-regexp", 'w'), ("line-regexp", 'x'), ("count", 'c'), ("line-number", 'n'),
      ("files-with-matches", 'l'), ("files-without-match", 'L'), ("quiet", 'q'), ("silent", 'q'),
      ("no-messages", 's'), ("only-matching", 'o'), ("no-filename", 'h'), ("with-filename", 'H'),
      ("max-count", 'm'), ("after-context", 'A'), ("before-context", 'B'), ("context", 'C'),
      ("extended-regexp", 'E'), ("fixed-strings", 'F'), ("basic-regexp", 'G'), ("perl-regexp", 'P'),
      ("text", 'a')] }

/-- Looks for lines; `kind` is the spelling of patterns if no option gives it. -/
def grep (kind : Char) : Program := do
  let r ← read
  let args := r.args.map fun a =>
    match a.toList with
    | '-' :: c :: cs => if (c :: cs).all Char.isDigit then "-C" ++ String.ofList (c :: cs) else a
    | _ => a
  let (given, operands) ← searchOptions.split (args.filter fun a => !("--color".toList.isPrefixOf a.toList))
  let fromFiles ← (given.filter (·.1 == 'f')).mapM fun g => do
    match ← contentOf g.2 with
    | .ok text => return linesOf text
    | .error e => fail (g.2 ++ ": " ++ e) 2
  let own := ((given.filter (·.1 == 'e')).flatMap fun g => g.2.splitOn "\n") ++ fromFiles.flatten
  let listed := has given 'e' || has given 'f'
  let (texts, paths) ← match listed, operands with
    | true, paths => pure (own, paths)
    | false, p :: paths => pure (p.splitOn "\n", paths)
    | false, [] => do
      warn "Usage: grep [OPTION]... PATTERNS [FILE]...\nTry 'grep --help' for more information.\n"
      stopWith 2
  let kind := ((given.reverse.find? fun g => "EFGP".toList.contains g.1).map (·.1)).getD kind
  let patterns ← texts.mapM fun t => do
    if kind ≠ 'F' && "[:".toList.isPrefixOf t.toList && ":]".toList.isSuffixOf t.toList then
      fail "character class syntax is [[:space:]], not [:space:]" 2
    let read := if kind == 'F' then .ok (Regex.ofText t.toList)
      else Regex.ofString { extended := kind == 'E' || kind == 'P' } t
    match read with
    | .ok p =>
      return if has given 'x' then p.wholeLines else if has given 'w' then p.wholeWords else p
    | .error e => fail e.wording 2
  if kind == 'E' then
    for t in texts do
      for sign in Regex.earlySigns (t.length + 1) true t.toList do
        warn (r.name ++ ": warning: " ++ sign ++ " at start of expression\n")
  let number (c : Char) : Work (Option Nat) := do
    match argument? given c with
    | none => return none
    | some text =>
      match digits? text with
      | some n => return some n
      | none => fail ((if c == 'm' then "invalid max count" else text ++ ": invalid context length argument")) 2
  let around ← number 'C'
  let s : Search :=
    { patterns, style := { anyCase := has given 'i' }, inverted := has given 'v', parts := has given 'o'
      numbers := has given 'n', most := ← number 'm'
      before := ((← number 'B').or around).getD 0, after := ((← number 'A').or around).getD 0 }
  let named := (1 < paths.length || has given 'H') && !has given 'h'
  let mut found := false
  let mut failed := false
  for path in (if paths.isEmpty then ["-"] else paths) do
    match ← contentOf path with
    | .error e => do
      failed := true
      if !has given 's' then complain (path ++ ": " ++ e)
    | .ok text => do
      let shownName := if path = "-" then "(standard input)" else path
      let lines := linesOf text
      let hits := s.selected lines
      if !hits.isEmpty then found := true
      if has given 'q' then pure ()
      else if has given 'l' then
        if !hits.isEmpty then put (shownName ++ "\n")
      else if has given 'L' then
        if hits.isEmpty then put (shownName ++ "\n")
      else if has given 'c' then
        put ((if named then shownName ++ ":" else "") ++ toString hits.length ++ "\n")
      else putLines (s.output (if named then some shownName else none) lines hits)
  leave (if failed && !(found && has given 'q') then 2 else if found then 0 else 1)

end ServerTrials.Client.Utility
