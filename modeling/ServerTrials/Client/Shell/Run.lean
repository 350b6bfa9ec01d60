import ServerTrials.Client.Shell.Builtin.Jobs
import ServerTrials.Client.Shell.Launch

/-!
Running commands.

One step runs a command whose inner commands are run by the step below; `runner` stacks the steps. A shell
that goes deeper than the stack reaches is ended by the machine, and one that turns in its loops for too
long is taken to turn for ever.
-/

namespace ServerTrials.Client.Shell

/-! ### Commands of the shell itself -/

/-- The command of the shell itself that has that name. -/
def builtin? : String → Option Builtin
  | "." => some Builtin.source
  | ":" | "true" => some fun _ => pure ()
  | "false" => some fun _ => setStatus 1
  | "[" => some (Builtin.test true)
  | "alias" => some Builtin.aliases
  | "bg" | "fg" => some Builtin.noCurrentJob
  | "break" => some (Builtin.leaveLoops .leave)
  | "cd" | "chdir" => some Builtin.cd
  | "continue" => some (Builtin.leaveLoops .again)
  | "echo" => some Builtin.echo
  | "eval" => some Builtin.eval
  | "exec" => some Builtin.exec
  | "exit" => some Builtin.exit
  | "export" => some Builtin.exports
  | "getopts" => some Builtin.getopts
  | "hash" => some Builtin.hash
  | "jobs" => some Builtin.jobs
  | "kill" => some Builtin.kill
  | "local" => some Builtin.locals
  | "printf" => some Builtin.printf
  | "pwd" => some Builtin.pwd
  | "read" => some Builtin.read
  | "readonly" => some Builtin.fixes
  | "return" => some Builtin.goBack
  | "set" => some Builtin.setCommand
  | "shift" => some Builtin.shift
  | "test" => some (Builtin.test false)
  | "times" => some Builtin.times
  | "trap" => some Builtin.trap
  | "type" => some Builtin.typeCommand
  | "ulimit" => some Builtin.ulimit
  | "umask" => some Builtin.umask
  | "unalias" => some Builtin.unalias
  | "unset" => some Builtin.unset
  | "wait" => some Builtin.wait
  | _ => none

/-- Runs a command of the shell itself. A mistake of one that is not special only gives it its status. -/
def runBuiltin (m : Means) (role : Role) (b : Builtin) (isSpecial : Bool) (name : String)
    (args : List String) : Act Unit := do
  let s ← get
  set { s with speaker := some name, status := 0 }
  b { means := m, role, args, before := s.status }
  if (← get).unwritten then
    refuse (name ++ ": I/O error") ((← get).status ||| 1)
    modify ({ · with unwritten := false })
  modify fun t => { t with
    speaker := s.speaker
    flow := if t.flow == .failed && !isSpecial then .normal else t.flow }

/-! ### Functions -/

/-- Runs the body of a function with arguments of its own. -/
def callFunction (m : Means) (role : Role) (body : Command) (args : List String) : Act Unit := do
  let s ← get
  set { s with
    args, optionIndex := 1, optionPlace := none, calls := s.calls + 1, loops := 0
    locals := [] :: s.locals }
  m.run { tested := role.tested } body
  modify fun t =>
    let old := t.locals.headD []
    let t := (old.filter (·.1 ≠ "-")).foldl (fun t l => t.restoreVariable l.1 l.2) t
    let t := match ((old.find? (·.1 == "-")).bind (·.2)).bind (·.value) with
      | some letters => { t with options := letters.toList }
      | none => t
    { t with
      args := s.args, optionIndex := s.optionIndex, optionPlace := s.optionPlace, calls := s.calls
      loops := s.loops, locals := s.locals
      flow := if t.flow == .back then .normal else t.flow }

/-! ### Programs -/

/-- Runs a program and waits for it, or in place of the shell if nothing follows. -/
def runProgram (m : Means) (role : Role) (words : List String) : Act Unit := do
  let s ← get
  let name := words.headD ""
  match Builtin.findProgram s name with
  | .error e => do
    complain (name ++ ": " ++ e.shellWording)
    setStatus (if name.toList.contains '/' then e.status else 127)
  | .ok _ =>
    if role.last && s.traps.all (·.2 == "") then m.launch words
    else do
      let child ← inSubshell m (fun s => s) (m.launch words)
      setStatus (← awaitAll [child.process])

/-! ### Simple commands -/

/-- What is left of words after `command` and its options: the words, and what is asked about them if they
are not to be run. -/
def afterCommand : List String → Except Builtin.OptionFault (List String × Option Bool)
  | [] => .ok ([], none)
  | args => do
    let (given, rest) ← Builtin.options [('p', false), ('v', false), ('V', false)] args
    .ok (rest, (given.find? fun g => g.1 ≠ 'p').map fun g => g.1 == 'V')

/-- Runs the words of a command; a function may stand for the first one unless `plain` says otherwise.
Each turn takes a word. -/
def runWords (m : Means) (role : Role) : Nat → Bool → List String → Act Unit
  | 0, _, _ => pure ()
  | _, _, [] => pure ()
  | n + 1, plain, name :: args => do
    let s ← get
    match s.functions.find? (·.1 == name), builtin? name with
    | some (_, body), none => if plain then runProgram m role (name :: args) else callFunction m role body args
    | some (_, body), some b =>
      if plain then runBuiltin m role b false name args else callFunction m role body args
    | none, some b => runBuiltin m role b (!plain && Reader.specialNames.contains name) name args
    | none, none =>
      if name = "command" then do
        match afterCommand args with
        | .error e => runBuiltin m role (fun _ => fail e.wording) false name args
        | .ok (rest, some long) => runBuiltin m role (fun _ => rest.head?.forM (Builtin.tellName long)) false name args
        | .ok ([], none) => setStatus 0
        | .ok (rest, none) => runWords m role n true rest
      else runProgram m role (name :: args)

/-- Whether the words of a command set variables. -/
def setsByWords (s : State) (words : List Word) : Bool :=
  let names := words.map fun w => (Word.plain? w).getD ""
  let name := ((names.dropWhile (· == "command")).head?).getD ""
  Builtin.setting.contains name && !s.functions.any (·.1 == name)

/-- Whether what a command sets stays set, so that the command is a special one or there is none. -/
def keepsSets (s : State) : List String → Bool
  | [] => true
  | name :: _ => Reader.specialNames.contains name && !s.functions.any (·.1 == name)

/-- Tells a command before it runs, if that is asked for. -/
def trace (m : Means) (before : State) (sets : List (String × String)) (args : List String) : Act Unit := do
  if before.has 'x' then
    let lead := (before.value? "PS4").getD ""
    let lead ← match Reader.parts? lead with
      | some w => do pure (textOfPieces (← wordPieces m Reader.depth false w))
      | none => pure lead
    let line := " ".intercalate (sets.map (fun v => v.1 ++ "=" ++ v.2) ++ args)
    (before.channel? 2).forM fun ch => discard (writeChannel ch (lead ++ line ++ "\n"))

/-- Sets variables. -/
def setAll (m : Means) (handOver : Bool) : List (String × Word) → Act (List (String × String))
  | [] => return []
  | (name, w) :: rest => do
    let value ← valueText m w
    if (← running) then assign name value
    if (← running) then
      if handOver then
        modify fun s => s.putVariable
          { (s.binding? name).getD { name, value := none } with exported := true }
      return (name, value) :: (← setAll m handOver rest)
    else return []

/-- Runs a simple command. -/
def runSimple (m : Means) (role : Role) (line : Nat) (sets : List (String × Word)) (words : List Word)
    (redirects : List Redirect) : Act Unit := do
  modify fun s => { s with line, substituted := none }
  let args ← allFields m (setsByWords (← get) words) words
  if !(← running) then return
  let goals ← targets m redirects
  if !(← running) then return
  let before ← get
  let descriptors := goals.map (·.1)
  let isSpecial := match args with
    | name :: _ => keepsSets before [name]
    | [] => false
  if !(← leadAll goals) then
    leadBack descriptors before
    if isSpecial then modify ({ · with flow := .failed })
    return
  let keeps := keepsSets before args
  let values ← setAll m (!keeps) sets
  if (← running) then
    trace m before values args
    match args with
    | [] => modify fun s => { s with status := s.substituted.getD 0 }
    | name :: _ => do
      let rest := if name = "command" then (args.drop 1).dropWhile fun a => a = "--" || a = "-p" else args
      runWords m role (args.length + 1) false args
      if !keeps then
        modify fun s => sets.reverse.foldl (fun s v => s.restoreVariable v.1 (before.binding? v.1)) s
      if rest ≠ ["exec"] then leadBack descriptors before
      return
  leadBack descriptors before

/-! ### Processes -/

/-- The stages of a pipeline, one feeding the next; answers their processes. `source` is where the input of
the next stage leads, if not where it led. -/
def runStages (m : Means) (role : Role) (prepare : State → State) (source : Option Channel) :
    List Command → Act (List Nat)
  | [] => return []
  | [c] => do
    let child ← inSubshell m (fun s => fed (prepare s)) (m.run { tested := role.tested, last := true } c)
    return [child.process]
  | c :: rest => do
    let id ← newPipe
    let child ← inSubshell m (fun s => (fed (prepare s)).connect 1 (.pipe id))
      (m.run { tested := role.tested, last := true } c)
    turnPipe id (closing (← get).world.lives (.pipe id))
    return child.process :: (← runStages m role (fun s => s) (some (.pipe id)) rest)
where
  /-- The shell of a stage with its input. -/
  fed (s : State) : State :=
    match source with
    | some ch => s.connect 0 ch
    | none => s

/-- A shell that runs beside the one that began it: no input, and deaf to the signals of a terminal. -/
def State.beside (s : State) : State :=
  let s := s.connect 0 (.device .null)
  { s with traps := s.traps ++ [(2, ""), (3, "")] }

/-- Begins commands and goes on without waiting. -/
def runBeside (m : Means) (c : Command) : Act Unit := do
  let stages := match c with
    | .pipeline stages => stages
    | c => [c]
  let processes ← runStages m {} State.beside none stages
  modify fun s => { s with
    lastJob := processes.getLast?, jobs := s.jobs ++ [{ processes }], status := 0 }

/-! ### Loops -/

/-- How many turns all loops may take. -/
def turnLimit : Nat := 200000

/-- Counts a turn of a loop; after too many it is taken to turn for ever. -/
def countTurn : Act Unit := modify fun s =>
  if turnLimit < s.world.turns then { s with flow := .hung }
  else { s with world := { s.world with turns := s.world.turns + 1 } }

/-- Takes what was said about loops after a turn of one; answers whether it turns again. -/
def turnsOn : Act Bool := do
  let s ← get
  match s.flow with
  | .normal => return true
  | .leave n => do
    set { s with flow := if n ≤ 1 then .normal else .leave (n - 1) }
    return false
  | .again n => do
    set { s with flow := if n ≤ 1 then .normal else .again (n - 1) }
    return n ≤ 1
  | _ => return false

/-- The turns of a loop with a condition; answers the status of its last turn. -/
def runTurns (m : Means) (role : Role) (whileFails : Bool) (condition body : Command) :
    Nat → Nat → Act Nat
  | 0, status => do
    modify ({ · with flow := .hung })
    return status
  | n + 1, status => do
    countTurn
    if (← running) then m.run { tested := true } condition
    match (← get).flow with
    | .normal =>
      if ((← get).status == 0) == whileFails then return status
      else do
        m.run { tested := role.tested } body
        let status := (← get).status
        if ← turnsOn then runTurns m role whileFails condition body n status else return status
    | .back => return (← get).status
    | _ => if ← turnsOn then runTurns m role whileFails condition body n status else return status

/-- The turns of a loop over texts. -/
def runEach (m : Means) (role : Role) (name : String) (body : Command) : List String → Act Unit
  | [] => pure ()
  | text :: rest => do
    countTurn
    if (← running) then assign name text
    if (← running) then m.run { tested := role.tested } body
    if ← turnsOn then runEach m role name body rest

/-- Runs something inside a loop. -/
def inLoop {α : Type} (act : Act α) : Act α := do
  modify fun s => { s with loops := s.loops + 1 }
  let a ← act
  modify fun s => { s with loops := s.loops - 1 }
  return a

/-! ### Choices -/

/-- The body of the first arm with a pattern that a text matches. -/
def chosen (m : Means) (text : List Char) : List Arm → Act (Option Command)
  | [] => return none
  | .mk patterns body :: rest => do
    for w in patterns do
      if (← running) then
        if (← patternOf m w).accepts text then return some body
    chosen m text rest

/-! ### Steps -/

/-- Ends the shell if a command failed that nobody looks at, and that is asked for. -/
def checkFailure (role : Role) : Act Unit := do
  let s ← get
  let goesOn := s.flow == .normal || s.flow == .back
  if s.has 'e' && !role.tested && s.status ≠ 0 && goesOn then endWith (.exited s.status)

/-- Runs a command; the means run what is inside it. -/
def act (m : Means) (role : Role) : Command → Act Unit
  | .skip => pure ()
  | .simple line sets words redirects => do
    runSimple m role line sets words redirects
    checkFailure role
  | .pipeline stages => do
    setStatus (← awaitAll (← runStages m role (fun s => s) none stages))
    checkFailure role
  | .negated c => do
    m.run { tested := true } c
    if (← running) then modify fun s => { s with status := if s.status = 0 then 1 else 0 }
  | .both a b => do
    m.run { tested := true } a
    if (← running) && (← get).status == 0 then m.run role b
  | .either a b => do
    m.run { tested := true } a
    if (← running) && (← get).status != 0 then m.run role b
  | .sequence a b => do
    m.run { tested := role.tested } a
    if (← running) then m.run role b
  | .background c => runBeside m c
  | .subshell c => do
    let child ← inSubshell m (fun s => s) (m.run { tested := role.tested, last := true } c)
    setStatus (← awaitAll [child.process])
    checkFailure role
  | .redirected line (.subshell c) redirects => do
    modify ({ · with line })
    let goals ← targets m redirects
    if (← running) then
      let child ← inSubshell m (fun s => s) do
        if ← leadAll goals then m.run { tested := role.tested, last := true } c
      setStatus (← awaitAll [child.process])
      checkFailure role
  | .redirected line c redirects => do
    modify ({ · with line })
    let goals ← targets m redirects
    if (← running) then
      let before ← get
      if ← leadAll goals then m.run { tested := role.tested } c
      leadBack (goals.map (·.1)) before
  | .branch condition body otherwise => do
    m.run { tested := true } condition
    if (← running) then
      if (← get).status == 0 then m.run role body
      else
        setStatus 0
        m.run role otherwise
  | .loop whileFails condition body => do
    setStatus (← inLoop (runTurns m role whileFails condition body (turnLimit + 1) 0))
  | .each line name words body => do
    modify ({ · with line })
    let texts ← match words with
      | some ws => allFields m false ws
      | none => do pure (← get).args
    if (← running) then
      setStatus 0
      inLoop (runEach m role name body texts)
  | .choose line word arms => do
    modify ({ · with line })
    let text ← wholeText m word
    if (← running) then
      match ← chosen m text.toList arms with
      | some .skip | none => if (← running) then setStatus 0
      | some body => if (← running) then m.run role body
  | .define name body => modify fun s => { s with
      functions := s.functions.filter (·.1 ≠ name) ++ [(name, body)], status := 0 }

/-- Runs a command and acts on the signals that have come. -/
def step (m : Means) (role : Role) (c : Command) : Act Unit := do
  actOnSignals m
  if (← running) && !(← get).has 'n' then
    act m role c
    actOnSignals m

/-- Steps stacked on each other; below them, a shell is ended as one that has used up its memory. -/
def means : Nat → Means
  | 0 => ⟨fun _ _ => endWith (.killed 11), fun _ => endWith (.killed 11)⟩
  | n + 1 => ⟨fun role c => step (means n) role c, fun words => launchHere (means n) words⟩

/-- How deep commands may stand in each other. -/
def depth : Nat := 4000

end ServerTrials.Client.Shell
