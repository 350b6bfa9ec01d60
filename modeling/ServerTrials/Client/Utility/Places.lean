import ServerTrials.Client.Utility.Basic

/-!
Programs on paths, files and directories.
-/

namespace ServerTrials.Client.Utility

/-! ### Names -/

/-- A path without the slashes at its end. -/
def withoutSlashes (s : String) : List Char := (s.toList.reverse.dropWhile (· == '/')).reverse

/-- The last part of a path. -/
def baseName (s : String) : String :=
  if s ≠ "" && s.toList.all (· == '/') then "/"
  else String.ofList ((withoutSlashes s).reverse.takeWhile (· != '/')).reverse

/-- The directory part of a path. -/
def dirName (s : String) : String :=
  if s ≠ "" && s.toList.all (· == '/') then "/"
  else
    let cs := (withoutSlashes s).reverse.dropWhile (· != '/')
    if cs.isEmpty then "."
    else
      let dir := cs.dropWhile (· == '/')
      if dir.isEmpty then "/" else String.ofList dir.reverse

/-- A name without an end that it has, unless it is nothing else. -/
def withoutSuffix (suffix name : String) : String :=
  if suffix ≠ name && suffix.toList.isSuffixOf name.toList then
    String.ofList (name.toList.take (name.length - suffix.length))
  else name

/-- Writes the last parts of paths. -/
def basename : Program := do
  let (given, operands) ← options
    { letters := "as:z", ordered := true, names := [("multiple", 'a'), ("suffix", 's'), ("zero", 'z')] }
  match has given 'a' || has given 's', operands with
  | _, [] => misuse "missing operand"
  | true, paths => putLines (paths.map fun p => withoutSuffix ((argument? given 's').getD "") (baseName p))
  | false, [path] => put (baseName path ++ "\n")
  | false, [path, suffix] => put (withoutSuffix suffix (baseName path) ++ "\n")
  | false, _ :: _ :: c :: _ => misuse ("extra operand " ++ quotedText c)

/-- Writes the directory parts of paths. -/
def dirname : Program := do
  let (_, operands) ← options { letters := "z" }
  if operands.isEmpty then misuse "missing operand"
  putLines (operands.map dirName)

/-- Writes the current directory. -/
def workingDirectory : Program := do
  let (given, operands) ← options { letters := "LP", names := [("logical", 'L'), ("physical", 'P')] }
  let r ← read
  if !operands.isEmpty then warn (r.name ++ ": ignoring non-option arguments\n")
  put ((if has given 'L' then r.cwd else Files.locate r.cwd ".") ++ "\n")

/-- Writes where paths that point elsewhere lead. -/
def readlink : Program := do
  let (given, operands) ← options
    { letters := "femnqsvz", names := [("canonicalize", 'f'), ("no-newline", 'n')] }
  if operands.isEmpty then misuse "missing operand"
  let r ← read
  for path in operands do
    let d ← get
    let place := Files.locate r.cwd path
    let ending := if has given 'n' then "" else "\n"
    if has given 'f' || has given 'e' || has given 'm' then
      let parentThere := d.files.node? (Files.parent place) matches some .directory
      let there := (d.files.node? place).isSome
      if has given 'm' || there || (parentThere && !has given 'e') then put (place ++ ending) else leave 1
    else
      match Files.parts (Files.absolute r.cwd path) with
      | [p] =>
        match Files.pointers.find? (·.1 == p) with
        | some (_, target) => put (target ++ ending)
        | none => leave 1
      | _ => leave 1

/-- Writes the places that paths stand for. -/
def realpath : Program := do
  let (given, operands) ← options
    { letters := "emqsz", names := [("canonicalize-existing", 'e'), ("canonicalize-missing", 'm')] }
  if operands.isEmpty then misuse "missing operand"
  let r ← read
  for path in operands do
    let d ← get
    let place := Files.locate r.cwd path
    let parentThere := d.files.node? (Files.parent place) matches some .directory
    if path = "" then complain (blamePath path Files.Obstacle.missing.wording)
    else if has given 'm' || (d.files.node? place).isSome || (parentThere && !has given 'e') then put (place ++ "\n")
    else complain (blamePath path Files.Obstacle.missing.wording)

/-! ### Lists -/

/-- How directories are listed. -/
structure Listing where
  hidden : Bool
  dots : Bool
  reverse : Bool
  slashes : Bool
  marks : Bool
  below : Bool

/-- A name with the sign of what it stands for. -/
def Listing.marked (l : Listing) (name : String) (n : Option Node) : String :=
  match n with
  | some .directory => if l.slashes || l.marks then name ++ "/" else name
  | some (.file _ true) => if l.marks then name ++ "*" else name
  | _ => name

/-- The names in a directory as they are listed. -/
def Listing.names (l : Listing) (f : Files) (place : String) : List String :=
  let all := (f.names place).filter fun n => l.hidden || l.dots || n.toList.head? != some '.'
  let entries := all.map fun n => l.marked n (f.node? (if place = "/" then "/" ++ n else place ++ "/" ++ n))
  let entries := if l.dots then (if l.slashes || l.marks then ["./", "../"] else [".", ".."]) ++ entries
    else entries
  if l.reverse then entries.reverse else entries

/-- A directory and those below it with their names; each turn goes one level down. -/
def Listing.tree (l : Listing) (f : Files) : Nat → String → String → List (String × List String)
  | 0, _, _ => []
  | n + 1, shownPath, place =>
    let inner := (f.names place).filter fun m => l.hidden || l.dots || m.toList.head? != some '.'
    let inner := if l.reverse then inner.reverse else inner
    (shownPath, l.names f place) :: (if l.below then
      inner.flatMap fun m =>
        let p := if place = "/" then "/" ++ m else place ++ "/" ++ m
        match f.node? p with
        | some .directory => l.tree f n (shownPath ++ "/" ++ m) p
        | _ => []
      else [])

/-- Lists files and directories. -/
def ls : Program := do
  let (given, operands) ← options
    { letters := "aA1bBcCdDfFgGhHiI:klLmnNopqQrRsStT:uUvw:xXZ", status := 2
      names := [("all", 'a'), ("almost-all", 'A'), ("directory", 'd'), ("recursive", 'R'), ("reverse", 'r'),
        ("classify", 'F')] }
  let r ← read
  let files := (← get).files
  let l : Listing := ⟨has given 'A', has given 'a', has given 'r', has given 'p', has given 'F', has given 'R'⟩
  let paths := if operands.isEmpty then ["."] else operands
  let mut plain := []
  let mut directories := []
  for path in paths.mergeSort (fun a b => decide (a ≤ b)) do
    match files.find r.cwd path with
    | .ok (place, .directory) =>
      if has given 'd' then plain := plain ++ [l.marked path (some .directory)]
      else directories := directories ++ [(path, place)]
    | .ok (_, n) => plain := plain ++ [l.marked path (some n)]
    | .error _ => pure ()
  for path in paths do
    match files.find r.cwd path with
    | .error e => complain ("cannot access " ++ quotedName path ++ ": " ++ e.wording) 2
    | .ok _ => pure ()
  if l.reverse then
    plain := plain.reverse
    directories := directories.reverse
  let blocks := directories.flatMap fun d => l.tree files 30 d.1 d.2
  putLines plain
  let titled := 1 < paths.length || l.below
  let mut first := plain.isEmpty
  for (path, names) in blocks do
    if !first then put "\n"
    first := false
    if titled then put (path ++ ":\n")
    putLines names

/-! ### Making and removing -/

/-- The path and every longer one on the way to it, the shortest first. -/
def waysTo (path : String) : List String :=
  let ps := (path.splitOn "/")
  ((List.range ps.length).map fun n => "/".intercalate (ps.take (n + 1))).filter fun p =>
    p ≠ "" && p.toList.getLast? != some '/'

/-- Makes a directory. -/
def makeDirectory (path : String) (existing verbose : Bool) : Work Unit := do
  let r ← read
  let d ← get
  let blame (e : Files.Obstacle) : Work Unit :=
    complain ("cannot create directory " ++ quotedName path ++ ": " ++ e.wording)
  match d.files.find r.cwd path with
  | .ok (_, .directory) => if existing then pure () else blame .exists
  | .ok _ => blame .exists
  | .error .notDirectory => blame .notDirectory
  | .error _ => do
    let place := Files.locate r.cwd path
    match d.files.node? (Files.parent place) with
    | some .directory => do
      set { d with files := d.files.put place .directory }
      if verbose then put ((← read).name ++ ": created directory " ++ quotedName path ++ "\n")
    | _ => blame .missing

/-- Makes directories. -/
def mkdir : Program := do
  let (given, operands) ← options
    { letters := "m:pvZ", names := [("parents", 'p'), ("verbose", 'v'), ("mode", 'm')] }
  if operands.isEmpty then misuse "missing operand"
  for path in operands do
    if has given 'p' then
      for p in waysTo path do
        makeDirectory p true (has given 'v')
    else makeDirectory path false (has given 'v')

/-- Removes empty directories. -/
def rmdir : Program := do
  let (given, operands) ← options
    { letters := "pv", names := [("parents", 'p'), ("verbose", 'v'), ("ignore-fail-on-non-empty", 'i')] }
  if operands.isEmpty then misuse "missing operand"
  let r ← read
  for path in operands do
    let mut going := true
    for p in (if has given 'p' then (waysTo path).reverse else [path]) do
      if going then
        let d ← get
        let what := if p = path then "failed to remove " else "failed to remove directory "
        let blame (e : Files.Obstacle) : Work Unit := complain (what ++ quotedName p ++ ": " ++ e.wording)
        match d.files.find r.cwd p with
        | .ok (place, .directory) =>
          if (d.files.names place).isEmpty then set { d with files := d.files.remove place }
          else
            blame .notEmpty
            going := false
        | .ok _ => do
          blame .notDirectory
          going := false
        | .error e => do
          blame e
          going := false

/-- Removes files, and directories with all that is in them if that is asked for. -/
def rm : Program := do
  let (given, operands) ← options
    { letters := "dfiIrRv", names := [("force", 'f'), ("recursive", 'r'), ("dir", 'd'), ("verbose", 'v')] }
  let force := has given 'f'
  if operands.isEmpty then
    if force then stop else misuse "missing operand"
  let r ← read
  let recursive := has given 'r' || has given 'R'
  for path in operands do
    let d ← get
    let blame (e : Files.Obstacle) : Work Unit := complain ("cannot remove " ++ quotedName path ++ ": " ++ e.wording)
    let name := baseName path
    match d.files.find r.cwd path with
    | .ok (place, .directory) =>
      if recursive && (name == "." || name == "..") then
        complain ("refusing to remove '.' or '..' directory: skipping " ++ quotedName path)
      else if recursive || (has given 'd' && (d.files.names place).isEmpty) then
        set { d with files := d.files.remove place }
        if has given 'v' then put ("removed directory " ++ quotedName path ++ "\n")
      else if has given 'd' then blame .notEmpty
      else blame .isDirectory
    | .ok (place, _) => do
      set { d with files := d.files.remove place }
      if has given 'v' then put ("removed " ++ quotedName path ++ "\n")
    | .error e => if !(force && (e == .missing || e == .notDirectory)) then blame e

/-- Makes files that are not there. -/
def touch : Program := do
  let (given, operands) ← options
    { letters := "acfhmd:r:t:", names := [("no-create", 'c'), ("date", 'd'), ("reference", 'r')] }
  if operands.isEmpty then misuse "missing file operand"
  let r ← read
  for path in operands do
    let d ← get
    match d.files.target r.cwd path with
    | .ok (place, none) => if !has given 'c' then set { d with files := d.files.put place (.file "" false) }
    | .ok _ => pure ()
    | .error e => if !has given 'c' then complain ("cannot touch " ++ quotedName path ++ ": " ++ e.wording)

/-- Where copies or moved files go: under the last operand if that is a directory, or in its place. -/
def destinations (verb : String) (into : Option String) (operands : List String) :
    Work (List (String × String)) := do
  let r ← read
  let under (dir source : String) : String × String :=
    (source, (if dir.toList.getLast? == some '/' then dir else dir ++ "/") ++ baseName source)
  let isDirectory (path : String) : Work (Except Files.Obstacle Bool) := do
    match (← get).files.find r.cwd path with
    | .ok (_, .directory) => return .ok true
    | .ok _ => return .ok false
    | .error e => return .error e
  match into, operands with
  | some dir, sources => return sources.map (under dir)
  | none, [] => misuse ("missing " ++ verb ++ " operand")
  | none, [a] => misuse ("missing destination " ++ verb ++ " operand after " ++ quotedName a)
  | none, operands => do
    let last := operands.getLast?.getD ""
    let sources := operands.dropLast
    match ← isDirectory last with
    | .ok true => return sources.map (under last)
    | .ok false =>
      if 1 < sources.length then fail ("target " ++ quotedName last ++ ": Not a directory")
      else return sources.map (·, last)
    | .error e =>
      if 1 < sources.length then fail ("target " ++ quotedName last ++ ": " ++ e.wording)
      else return sources.map (·, last)

/-- The nodes at a place and below it, moved to another place. -/
def movedNodes (f : Files) (source goal : String) : List (String × Node) :=
  f.nodes.filterMap fun (path, n) =>
    if path = source then some (goal, n)
    else if (source ++ "/").toList.isPrefixOf path.toList then
      some (goal ++ String.ofList (path.toList.drop source.length), n)
    else none

/-- Copies or moves one file or tree. -/
def transfer (moves recursive : Bool) (source goal : String) : Work Unit := do
  let r ← read
  let d ← get
  match d.files.find r.cwd source with
  | .error e => complain ("cannot stat " ++ quotedName source ++ ": " ++ e.wording)
  | .ok (place, node) =>
    let goalPlace := Files.locate r.cwd goal
    if place = goalPlace then
      complain (quotedName source ++ " and " ++ quotedName goal ++ " are the same file")
    else if (node matches .directory) && !moves && !recursive then
      complain ("-r not specified; omitting directory " ++ quotedName source)
    else
      match d.files.target r.cwd goal with
      | .error e =>
        if moves then complain ("cannot move " ++ quotedName source ++ " to " ++ quotedName goal ++ ": " ++ e.wording)
        else complain ("cannot create " ++ (if node matches .directory then "directory " else "regular file ")
          ++ quotedName goal ++ ": " ++ e.wording)
      | .ok (goalPlace, _) =>
        let files := if moves then d.files.remove place else d.files
        set { d with files := (movedNodes d.files place goalPlace).foldl (fun (f : Files) (n : String × Node) => f.put n.1 n.2) files }

/-- Copies files. -/
def cp : Program := do
  let (given, operands) ← options
    { letters := "adfilnpPrRsTt:uvx", names := [("archive", 'a'), ("recursive", 'r'), ("force", 'f'),
        ("target-directory", 't'), ("verbose", 'v')] }
  for (source, goal) in ← destinations "file" (argument? given 't') operands do
    transfer false (has given 'r' || has given 'R' || has given 'a') source goal
    if has given 'v' then put (quotedName source ++ " -> " ++ quotedName goal ++ "\n")

/-- Moves files. -/
def mv : Program := do
  let (given, operands) ← options
    { letters := "bfinTt:uv", names := [("force", 'f'), ("no-clobber", 'n'), ("target-directory", 't'),
        ("verbose", 'v')] }
  for (source, goal) in ← destinations "file" (argument? given 't') operands do
    transfer true true source goal
    if has given 'v' then put ("renamed " ++ quotedName source ++ " -> " ++ quotedName goal ++ "\n")

/-- Gives a file a further name; `points` says whether the name only points at it. Such a name holds what
the file holds at that time. -/
def link (points forced : Bool) (source goal : String) : Work Unit := do
  let r ← read
  let d ← get
  let fail (detail reason : String) : Work Unit :=
    complain ("failed to create " ++ (if points then "symbolic" else "hard") ++ " link " ++ quotedName goal ++
      detail ++ ": " ++ reason)
  match d.files.find r.cwd source, d.files.target r.cwd goal, points with
  | .error e, _, false => complain ("failed to access " ++ quotedName source ++ ": " ++ e.wording)
  | .ok (_, .directory), _, false => complain (source ++ ": hard link not allowed for directory")
  | _, .error e, _ => fail (if points then "" else " => " ++ quotedName source) e.wording
  | found, .ok (place, old), _ =>
    if old.isSome && (!forced || old matches some .directory) then fail "" "File exists"
    else
      match found with
      | .ok (origin, _) =>
        set { d with
          files := (movedNodes d.files origin place).foldl
            (fun (f : Files) (n : String × Node) => f.put n.1 n.2) d.files }
      | .error _ => store goal ""

/-- Gives files further names. -/
def ln : Program := do
  let (given, operands) ← options
    { letters := "fnst:Tv", names := [("symbolic", 's'), ("force", 'f'), ("target-directory", 't')] }
  let pairs ← match operands with
    | [a] => pure [(a, "./" ++ baseName a)]
    | _ => destinations "file" (argument? given 't') operands
  for (source, goal) in pairs do
    link (has given 's') (has given 'f') source goal

/-- Makes a file or directory with a name of its own. -/
def mktemp : Program := do
  let (given, operands) ← options
    { letters := "dp:qtuV", names := [("directory", 'd'), ("dry-run", 'u'), ("tmpdir", 'p'), ("quiet", 'q')] }
  let r ← read
  let d ← get
  let template := operands.headD "tmp.XXXXXXXXXX"
  let cs := template.toList
  let marks := (cs.reverse.takeWhile (· == 'X')).length
  if marks < 3 then fail ("too few X's in template " ++ quotedText template)
  let letters := (List.range marks).map fun k => Char.ofNat ('a'.toNat + (d.namesMade * 7 + k * 5 + 3) % 26)
  let number := (toString d.namesMade).toList
  let name := String.ofList (cs.take (cs.length - marks) ++ (letters.take (marks - number.length) ++ number))
  let dir := (argument? given 'p').getD (((r.env.find? (·.1 == "TMPDIR")).map (·.2)).getD "/tmp")
  let path := if operands.isEmpty || has given 'p' || has given 't' then dir ++ "/" ++ name else name
  set { d with namesMade := d.namesMade + 1 }
  if has given 'u' then put (path ++ "\n")
  else
    match d.files.target r.cwd path with
    | .ok (place, none) => do
      modify fun d => { d with
        files := d.files.put place (if has given 'd' then .directory else .file "" false) }
      put (path ++ "\n")
    | .ok _ | .error _ =>
      complain ("failed to create " ++ (if has given 'd' then "directory" else "file") ++ " via template "
        ++ quotedText template ++ ": No such file or directory")

/-! ### Permissions -/

/-- Whether a file may be run after a change of its mode; none if the text is no mode. -/
def runsAfter (runs : Bool) (mode : String) : Option Bool :=
  let cs := mode.toList
  if mode ≠ "" && cs.all fun c => '0' ≤ c && c ≤ '7' then
    let n := cs.foldl (fun n c => n * 8 + (c.toNat - '0'.toNat)) 0
    some ((n / 64) % 2 = 1 || (n / 8) % 2 = 1 || n % 2 = 1)
  else
    (mode.splitOn ",").foldlM (fun runs clause =>
      let rest := clause.toList.dropWhile fun c => "ugoa".toList.contains c
      match rest with
      | op :: letters =>
        if !letters.all fun c => "rwxXstugo".toList.contains c then none
        else
          let x := letters.contains 'x'
          match op with
          | '+' => some (runs || x)
          | '-' => some (runs && !x)
          | '=' => some x
          | _ => none
      | [] => none) runs

/-- Changes the modes of files. -/
def chmod : Program := do
  let args := (← read).args
  let isMode (a : String) : Bool :=
    match a.toList with
    | '-' :: c :: _ => "rwxXst".toList.contains c
    | _ => false
  let mode := args.find? isMode
  let (_, operands) ← Options.split { letters := "cfvR", names := [("recursive", 'R')] }
    (args.filter fun a => !isMode a)
  let (mode, paths) ← match mode, operands with
    | some m, paths => pure (m, paths)
    | none, [] => misuse "missing operand"
    | none, m :: paths => pure (m, paths)
  if paths.isEmpty then misuse ("missing operand after " ++ quotedText mode)
  if (runsAfter false mode).isNone then misuse ("invalid mode: " ++ quotedText mode)
  let r ← read
  for path in paths do
    let d ← get
    match d.files.find r.cwd path with
    | .ok (place, .file content runs) =>
      set { d with files := d.files.put place (.file content ((runsAfter runs mode).getD runs)) }
    | .ok _ => pure ()
    | .error e => complain ("cannot access " ++ quotedName path ++ ": " ++ e.wording)

end ServerTrials.Client.Utility
