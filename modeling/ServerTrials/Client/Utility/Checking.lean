import ServerTrials.Client.Utility.Digest

/-!
The programs that write digests and check lists of them.

A line of a list holds a digest and the name of a file, in one of two orders. Options that have no letter of
their own stand under Greek ones, which no argument can hold.
-/

namespace ServerTrials.Client.Utility

/-- A kind of digest: its name and how it is reckoned. -/
structure Digest where
  name : String
  of : List Nat → String

namespace Digest

/-- A digest and the name it belongs to, as a line tells them: the digest first, or the name in parentheses. -/
def ofLine? (d : Digest) (line : String) : Option (String × String) :=
  let size := (d.of []).length
  let cs := line.toList
  let isDigest (cs : List Char) : Bool :=
    cs.length == size && cs.all fun c => c.isDigit || ('a' ≤ c && c ≤ 'f') || ('A' ≤ c && c ≤ 'F')
  let front := d.name.toList ++ [' ', '(']
  if front.isPrefixOf cs then
    let name := (cs.drop front.length).take (cs.length - front.length - size - 4)
    let rest := cs.drop (front.length + name.length)
    if ") = ".toList.isPrefixOf rest && isDigest (rest.drop 4) then
      some (String.ofList (rest.drop 4), String.ofList name)
    else none
  else
    match cs.drop size with
    | ' ' :: kind :: name =>
      if isDigest (cs.take size) && (kind == ' ' || kind == '*') && !name.isEmpty then
        some (String.ofList (cs.take size), String.ofList name)
      else none
    | _ => none

/-- What came of checking lines. -/
structure Tally where
  proper : Nat := 0
  improper : Nat := 0
  unread : Nat := 0
  wrong : Nat := 0
  right : Nat := 0

/-- Checks a digest against the file it belongs to. -/
def check (d : Digest) (given : List Given) (t : Tally) (expected path : String) : Work Tally := do
  let tell (result : String) : Work Unit := do
    if !has given 'σ' && !(result = "OK" && has given 'κ') then put (path ++ ": " ++ result ++ "\n")
  let t := { t with proper := t.proper + 1 }
  match ← contentOf path with
  | .ok text =>
    if d.of (bytesIn text) = expected.toLower then
      tell "OK"
      return { t with right := t.right + 1 }
    else
      tell "FAILED"
      return { t with wrong := t.wrong + 1 }
  | .error e =>
    if has given 'μ' && e = "No such file or directory" then return t
    else
      complain (blamePath path e)
      tell "FAILED open or read"
      return { t with unread := t.unread + 1 }

/-- Checks the digests in a list of them. -/
def checkAll (d : Digest) (given : List Given) (path text : String) : Work Unit := do
  let name := shown (if path = "-" then "standard input" else path)
  let mut t : Tally := {}
  for (line, n) in (linesOf text).zipIdx do
    if line ≠ "" && !("#".toList.isPrefixOf line.toList) then
      match d.ofLine? line with
      | some (expected, file) => t ← d.check given t expected file
      | none => do
        t := { t with improper := t.improper + 1 }
        if has given 'w' then
          warn ((← read).name ++ ": " ++ name ++ ": " ++ toString (n + 1) ++ ": improperly formatted " ++
            d.name ++ " checksum line\n")
  if t.proper = 0 then complain (name ++ ": no properly formatted checksum lines found")
  else
    let warning (count : Nat) (one more : String) : Work Unit := do
      if count ≠ 0 && !has given 'σ' then
        warn ((← read).name ++ ": WARNING: " ++ toString count ++ " " ++ (if count = 1 then one else more) ++ "\n")
    warning t.improper "line is improperly formatted" "lines are improperly formatted"
    warning t.unread "listed file could not be read" "listed files could not be read"
    warning t.wrong "computed checksum did NOT match" "computed checksums did NOT match"
    if has given 'μ' && t.right = 0 then complain (name ++ ": no file was verified")
    if t.unread ≠ 0 || t.wrong ≠ 0 || (has given 'ρ' && t.improper ≠ 0) then leave 1

/-- A name in a line of its own, and the sign before the line that says so if it is spelled with escapes. -/
def spelled (path : String) : String × String :=
  let escaped := path.toList.flatMap fun c =>
    match c with
    | '\\' => ['\\', '\\']
    | '\n' => ['\\', 'n']
    | '\r' => ['\\', 'r']
    | c => [c]
  (if escaped.length = path.length then "" else "\\", String.ofList escaped)

end Digest

/-- Writes digests of inputs, or checks the digests in lists of them. -/
def digest (d : Digest) : Program := do
  let (given, paths) ← options
    { letters := "bctwzτμκσρ"
      names := [("binary", 'b'), ("check", 'c'), ("text", 't'), ("warn", 'w'), ("zero", 'z'), ("tag", 'τ'),
        ("ignore-missing", 'μ'), ("quiet", 'κ'), ("status", 'σ'), ("strict", 'ρ')] }
  let checks := has given 'c'
  for (letter, name) in [('μ', "ignore-missing"), ('σ', "status"), ('w', "warn"), ('κ', "quiet"), ('ρ', "strict")] do
    if has given letter && !checks then
      misuse ("the --" ++ name ++ " option is meaningful only when verifying checksums")
  for path in (if paths.isEmpty then ["-"] else paths) do
    match ← contentOf path with
    | .ok text =>
      if checks then d.checkAll given path text
      else
        let (front, name) := if has given 'z' then ("", path) else Digest.spelled path
        let sum := d.of (bytesIn text)
        let last := if has given 'z' then "\x00" else "\n"
        if has given 'τ' then put (front ++ d.name ++ " (" ++ name ++ ") = " ++ sum ++ last)
        else put (front ++ sum ++ (if has given 'b' then " *" else "  ") ++ name ++ last)
    | .error e => complain (blamePath path e)

end ServerTrials.Client.Utility
