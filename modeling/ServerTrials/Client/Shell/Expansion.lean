import ServerTrials.Client.Pattern
import ServerTrials.Client.Shell.Arithmetic
import ServerTrials.Client.Shell.Subshell

/-!
What words become: parameters, outputs and values are filled in, texts are cut where separators stand,
and patterns become the names of files.

The commands inside a word are run by the runner at hand; the words inside a word are filled in one level
deeper.
-/

namespace ServerTrials.Client.Shell

/-! ### Outputs of commands -/

/-- The output of commands, without the line ends at its end. -/
def commandOutput (m : Means) (body : Command) : Act String := do
  if body matches .skip then return ""
  let id ← newPipe
  let child ← inSubshell m (·.connect 1 (.pipe id)) (m.run { last := true } body)
  let w := (← get).world
  waitUntil (closing w.lives (.pipe id))
  let code ← awaitAll [child.process]
  modify fun s => { s with substituted := some code }
  return dropLineEnds (String.ofList ((w.pipes[id]?.getD default).text.filter (· != '\x00')))

/-! ### Pieces -/

/-- A piece of a word that is being filled in: a character, the sign that the word is there even if it is
empty, or the border between two arguments. -/
inductive Piece where
  | glyph (c : Char) (quoted cuts : Bool)
  | mark
  | gap
  deriving DecidableEq, Repr

/-- The pieces of a text that was filled in. -/
def textPieces (quoted : Bool) (s : String) : List Piece :=
  if quoted then .mark :: s.toList.map (.glyph · true false) else s.toList.map (.glyph · false true)

/-- The characters of pieces, where nothing is cut. -/
def glyphsOf (ps : List Piece) : List Glyph := ps.filterMap fun p =>
  match p with
  | .glyph c quoted _ => some (c, quoted)
  | .gap => some (' ', true)
  | .mark => none

/-- The text of pieces, where nothing is cut. -/
def textOfPieces (ps : List Piece) : String := String.ofList ((glyphsOf ps).map (·.1))

/-! ### Parameters -/

/-- The letters of the options in the order in which they are shown. -/
def optionLetters : List Char := "pubaCEVvxsnmiIfe".toList

/-- The value of a parameter of one text, if it is set. -/
def State.parameter? (s : State) (name : String) : Option String :=
  match name with
  | "#" => some (toString s.args.length)
  | "?" => some (toString s.status)
  | "$" => some (toString s.mainProcess)
  | "!" => s.lastJob.map toString
  | "-" => some (String.ofList (optionLetters.filter s.has))
  | "0" => some s.title
  | name =>
    match name.toList with
    | c :: _ => if c.isDigit then s.args[(name.toNat?.getD 1) - 1]? else s.value? name
    | [] => none

/-- Whether a name stands for all arguments. -/
def isAll (name : String) : Bool := name == "@" || name == "*"

/-- The text between arguments that stand in one text. -/
def State.joint (s : State) : String :=
  match s.value? "IFS" with
  | none => " "
  | some ifs => String.ofList (ifs.toList.take 1)

/-- The pieces of all arguments. -/
def allPieces (s : State) (name : String) (quoted : Bool) : List Piece :=
  if name == "*" && quoted then textPieces true (s.joint.intercalate s.args)
  else List.intercalate [Piece.gap] (s.args.map (textPieces quoted))

/-- The value of a parameter, the arguments joined if it stands for all of them. -/
def State.whole? (s : State) (name : String) : Option String :=
  if isAll name then (if s.args.isEmpty then none else some (s.joint.intercalate s.args))
  else s.parameter? name

/-- The pieces of a parameter's value; unset parameters may be refused. -/
def valuePieces (name : String) (quoted : Bool) : Act (List Piece) := do
  let s ← get
  if isAll name then return allPieces s name quoted
  else
    match s.parameter? name with
    | some v => return textPieces quoted v
    | none => do
      if s.has 'u' then fail (name ++ ": parameter not set")
      return textPieces quoted ""

/-- The complaint about a parameter that is not set. -/
def unsetComplaint (orEmpty : Bool) (text : String) : String :=
  if text ≠ "" then text
  else if orEmpty then "parameter not set or null" else "parameter not set"

/-- The pieces of a parameter in a form. Words inside are filled in by `inner`, which is told whether
their characters may be cut. -/
def parameterPieces (inner : Bool → Word → Act (List Piece)) (name : String) (quoted : Bool) :
    Form → Act (List Piece)
  | .value => valuePieces name quoted
  | .length => do
    let s ← get
    if isAll name then return textPieces quoted (toString ((s.whole? name).getD "").length)
    else do
      if (s.parameter? name).isNone && s.has 'u' then fail (name ++ ": parameter not set")
      return textPieces quoted (toString ((s.parameter? name).getD "").length)
  | .fallback how orEmpty w => do
    let s ← get
    let there := match s.whole? name with
      | none => false
      | some v => !(orEmpty && v == "")
    let marked (ps : List Piece) : List Piece := if quoted then .mark :: ps else ps
    match how with
    | .default => if there then valuePieces name quoted else return marked (← inner (!quoted) w)
    | .replace => if there then return marked (← inner (!quoted) w) else return marked []
    | .assign => do
      if there then valuePieces name quoted
      else do
        let text := textOfPieces (← inner false w)
        assign name text
        return textPieces quoted text
    | .complain => do
      if there then valuePieces name quoted
      else do
        let text := textOfPieces (← inner false w)
        fail (name ++ ": " ++ unsetComplaint orEmpty text)
        return []
  | .trim atEnd longest w => do
    let s ← get
    if (s.whole? name).isNone && s.has 'u' && !isAll name then fail (name ++ ": parameter not set")
    let p := Pattern.ofGlyphs (glyphsOf (← inner false w))
    let cs := ((s.whole? name).getD "").toList
    return textPieces quoted
      (String.ofList (if atEnd then p.trimEnd longest cs else p.trimStart longest cs))
  | .bad => do
    fail "Bad substitution"
    return []

/-! ### Words -/

/-- The value of an expression. -/
def arithmeticValue (text : String) : Act String := do
  let s ← get
  match Arithmetic.evaluate s.value? text with
  | .ok (v, sets) => do
    for set in sets do
      if (← running) then assign set.1 set.2
    return toString v
  | .error e => do
    fail (e.message text)
    return ""

/-- The pieces of a word; `depth` bounds how deep words stand in each other, and `cuts` says whether its
own characters may be cut. -/
def wordPieces (m : Means) : Nat → Bool → Word → Act (List Piece)
  | 0, _, _ => return []
  | depth + 1, cuts, w => do
    let mut pieces := []
    for p in w do
      if (← running) then
        let more ← match p with
          | .char c quoted => pure [Piece.glyph c quoted (cuts && !quoted)]
          | .nothing => pure [Piece.mark]
          | .parameter name form quoted => parameterPieces (wordPieces m depth) name quoted form
          | .output body quoted => do pure (textPieces quoted (← commandOutput m body))
          | .arithmetic e quoted => do
            let text := textOfPieces (← wordPieces m depth false e)
            if (← running) then pure (textPieces quoted (← arithmeticValue text)) else pure []
        pieces := pieces ++ more
    return pieces

/-- The home directory of a user. -/
def homeOf? (f : Files) (user : String) : Option String :=
  match f.node? "/etc/passwd" with
  | some (.file text _) => (linesOf text).findSome? fun l =>
    match l.splitOn ":" with
    | name :: _ :: _ :: _ :: _ :: home :: _ => if name == user then some home else none
    | _ => none
  | _ => none

/-- A tilde at the beginning stands for a home directory, up to a slash or another end. -/
def withHome (ends : Char → Bool) (w : Word) : Act Word := do
  match w with
  | .char '~' false :: rest =>
    let name := rest.takeWhile fun p =>
      match p with
      | .char c _ => !ends c
      | _ => true
    let s ← get
    let home := match Word.plain? name with
      | some "" => s.value? "HOME"
      | some user => homeOf? s.world.files user
      | none => none
    match home with
    | some home => return Word.quoted home.toList ++ rest.drop name.length
    | none => return w
  | w => return w

/-- The parts of a word between colons outside quotes; every part but the first begins with its colon. -/
def colonParts (w : Word) : List Word :=
  w.foldr (fun p acc =>
    match p, acc with
    | .char ':' false, part :: parts => [] :: (p :: part) :: parts
    | p, part :: parts => (p :: part) :: parts
    | p, [] => [[p]]) [[]]

/-- The tildes of a value that is assigned. -/
def withHomes (w : Word) : Act Word := do
  let ends (c : Char) : Bool := c == '/' || c == ':'
  let parts ← (colonParts w).mapM fun part =>
    match part with
    | .char ':' false :: rest => do return .char ':' false :: (← withHome ends rest)
    | part => withHome ends part
  return parts.flatten

/-- The pieces of a whole word. -/
def piecesOf (m : Means) (w : Word) : Act (List Piece) := do
  wordPieces m Reader.depth false (← withHome (· == '/') w)

/-- The text of a word where nothing is cut. -/
def wholeText (m : Means) (w : Word) : Act String := do return textOfPieces (← piecesOf m w)

/-- The text of a value that is assigned. -/
def valueText (m : Means) (w : Word) : Act String := do
  return textOfPieces (← wordPieces m Reader.depth false (← withHomes w))

/-! ### Cutting -/

/-- A text being gathered from pieces: the texts before it, the last first, its characters if it has begun,
the last first, and whether a blank has just ended the one before. -/
structure Gathering where
  done : List (List Glyph) := []
  current : Option (List Glyph) := none
  blank : Bool := false

namespace Gathering

/-- Ends the current text, if one has begun. -/
def finish (g : Gathering) : Gathering :=
  match g.current with
  | some cs => { g with done := cs.reverse :: g.done, current := none }
  | none => g

/-- Takes a piece. Blank separators belong together; any other one ends a text, even an empty one. -/
def take (separators : List Char) (g : Gathering) : Piece → Gathering
  | .mark => { g with current := some (g.current.getD []), blank := false }
  | .gap => { g.finish with blank := false }
  | .glyph c quoted cuts =>
    if cuts && separators.contains c then
      if c == ' ' || c == '\t' || c == '\n' then
        { g.finish with blank := g.blank || g.current.isSome }
      else if g.current.isSome then { g.finish with blank := false }
      else if g.blank then { g with blank := false }
      else { g with done := [] :: g.done }
    else { g with current := some ((c, quoted) :: g.current.getD []), blank := false }

end Gathering

/-- The texts that pieces are cut into. -/
def cut (separators : String) (ps : List Piece) : List (List Glyph) :=
  (ps.foldl (Gathering.take separators.toList) {}).finish.done.reverse

/-! ### Names of files -/

/-- The characters between slashes. -/
def slashParts (gs : List Glyph) : List (List Glyph) :=
  gs.foldr (fun g acc =>
    match acc with
    | [] => if g.1 == '/' then [[], []] else [[g]]
    | p :: ps => if g.1 == '/' then [] :: p :: ps else (g :: p) :: ps) [[]]

/-- The files whose paths the parts of a pattern match; `shown` is the path so far. -/
def matchingFiles (f : Files) (cwd : String) (shown : String) : List (List Glyph) → List String
  | [] => []
  | part :: rest =>
    let pattern := Pattern.ofGlyphs part
    let dots := (part.head?.map (·.1)) == some '.'
    let names := if pattern.isOpen then
        let place := Files.locate cwd (if shown = "" then "." else shown)
        ((if dots then [".", ".."] else []) ++ f.names place).filter fun n =>
          (dots || n.toList.head? != some '.') && pattern.accepts n.toList
      else [String.ofList (part.map (·.1))]
    if rest.isEmpty then
      (names.map (shown ++ ·)).filter fun p => (f.find cwd p).toOption.isSome
    else names.flatMap fun n => matchingFiles f cwd (shown ++ n ++ "/") rest

/-- The texts that a cut text stands for: the files that it matches, or itself. -/
def fileNames (s : State) (gs : List Glyph) : List String :=
  let itself := [String.ofList (gs.map (·.1))]
  let isOpen := gs.any fun g => !g.2 && (g.1 == '*' || g.1 == '?' || g.1 == '[')
  if s.has 'f' || !isOpen then itself
  else
    match matchingFiles s.world.files s.cwd "" (slashParts gs) with
    | [] => itself
    | names => names

/-- The texts that a word becomes. -/
def fields (m : Means) (w : Word) : Act (List String) := do
  let ps ← piecesOf m w
  let s ← get
  return (cut s.separators ps).flatMap (fileNames s)

/-- The texts that words become. Where a command sets variables by its words, the value of one is not
cut. -/
def allFields (m : Means) (sets : Bool) (ws : List Word) : Act (List String) := do
  let mut texts := []
  for w in ws do
    if (← running) then
      let more ← match sets, Reader.assignment? w with
        | true, some (name, value) => do pure [name ++ "=" ++ (← valueText m value)]
        | _, _ => fields m w
      texts := texts ++ more
  return texts

/-- The pattern that a word becomes. -/
def patternOf (m : Means) (w : Word) : Act Pattern := do
  return Pattern.ofGlyphs (glyphsOf (← piecesOf m w))

end ServerTrials.Client.Shell
