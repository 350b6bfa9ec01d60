import ServerTrials.Client.Shell.Program

/-!
Programs that run programs.

Each reads its own options, changes something about its process, and runs the words after the options there or
in a process of their own. What cannot be run is complained about in the name of the program that was to run
it, with the status of `Builtin.NoProgram`.
-/

namespace ServerTrials.Client.Shell

open Utility (Given has argument?)

/-! ### Calls -/

/-- Ends a program with a complaint. -/
def endBlaming (name reason : String) (status : Nat) : Act Unit := do
  tell (name ++ ": " ++ reason ++ "\n")
  endWith (.exited status)

/-- Ends a program that was called in a wrong way. -/
def wrongCall (name reason : String) (status : Nat) : Act Unit := do
  if reason ≠ "" then tell (name ++ ": " ++ reason ++ "\n")
  tell ("Try '" ++ name ++ " --help' for more information.\n")
  endWith (.exited status)

/-- Goes on with the options of a program and the words after them, or ends it if it was called in a wrong
way. -/
def withCall (name : String) (o : Utility.Options) (args : List String)
    (next : List Given → List String → Act Unit) : Act Unit := do
  let s ← get
  let reading := ({ o with ordered := true } : Utility.Options).split args
  match (reading.run (s.request name args)).run.run { files := s.world.files } with
  | (.ok (given, words), _) => next given words
  | (.error _, done) => do
    for w in done.written.reverse do
      discard (write w.descriptor w.text)
    endWith (.exited done.status)

/-- Runs a program in this process, or complains in the name of another one. -/
def launchFrom (m : Means) (name : String) (describe : String → String) (words : List String)
    (advice : String := "") : Act Unit := do
  let program := words.headD ""
  let place := Builtin.findProgram (← get) program
  match if program = "" then .error .missing else place with
  | .ok _ => m.launch words
  | .error e => do
    tell (name ++ ": " ++ describe program ++ ": " ++ e.wording ++ "\n")
    if e == .missing then tell advice
    endWith (.exited e.status)

/-- How a command that cannot be run is described. -/
def describeFailed (program : String) : String := "failed to run command " ++ Utility.quotedText program

/-! ### Words in texts -/

/-- The words of a text that quotes and backslashes keep together. -/
def wordsOf (cs : List Char) : Nat → Option (List Char) → List String
  | 0, current => (current.map (String.ofList ·.reverse)).toList
  | n + 1, current =>
    let add (c : Char) (rest : List Char) := wordsOf rest n (some (c :: current.getD []))
    match cs with
    | [] => (current.map (String.ofList ·.reverse)).toList
    | '\\' :: c :: rest => add c rest
    | q :: rest =>
      if q == '\'' || q == '"' then
        let inside := rest.takeWhile (· != q)
        wordsOf (rest.drop (inside.length + 1)) n (some (inside.reverse ++ current.getD []))
      else if isGap q then
        (current.map (String.ofList ·.reverse)).toList ++ wordsOf rest n none
      else add q rest

/-- The texts cut into groups of a size. -/
def groups (size : Nat) : Nat → List String → List (List String)
  | 0, _ => []
  | n + 1, ts => if ts.isEmpty then [] else ts.take size :: groups size n (ts.drop size)

/-! ### Variables -/

/-- The options of a program that changes the variables. -/
def envOptions : Utility.Options where
  letters := "i0u:C:v"
  names := [("ignore-environment", 'i'), ("null", '0'), ("unset", 'u'), ("chdir", 'C'), ("debug", 'v')]
  status := 125

/-- Takes the settings of variables in front of a command. -/
def takeSettings : List String → Act (List String)
  | [] => return []
  | a :: rest => do
    if a.toList.contains '=' then
      let (v, value) := Builtin.splitSet a
      modify (·.putVariable { name := v, value := some (value.getD ""), exported := true })
      takeSettings rest
    else return a :: rest

/-- Runs a program with other variables, or lists the variables. -/
def runEnv (m : Means) (name : String) (args : List String) : Act Unit := do
  let split (text : String) (rest : List String) := wordsOf text.toList (text.length + 1) none ++ rest
  let args := match args with
    | "-S" :: text :: rest => split text rest
    | a :: rest => if "-S".toList.isPrefixOf a.toList then split (String.ofList (a.toList.drop 2)) rest else args
    | [] => []
  withCall name envOptions args fun given words => do
    let dash := words.head? == some "-"
    if has given 'i' || dash then modify ({ · with vars := [] })
    for (_, v) in given.filter (·.1 == 'u') do
      if (← running) then
        if v = "" || v.toList.contains '=' then
          endBlaming name ("cannot unset " ++ Utility.quotedText v ++ ": Invalid argument") 125
        else modify (·.dropVariable v)
    if (← running) then
      let words ← takeSettings (if dash then words.drop 1 else words)
      match argument? given 'C', words with
      | some _, [] => wrongCall name "must specify command with --chdir (-C)" 125
      | some path, _ :: _ => do
        let s ← get
        match s.world.files.find s.cwd path with
        | .ok (place, .directory) => set { s with cwd := place }
        | .ok _ => endBlaming name ("cannot change directory to " ++ Utility.quotedText path ++
            ": Not a directory") 125
        | .error e => endBlaming name ("cannot change directory to " ++ Utility.quotedText path ++ ": " ++
            e.wording) 125
      | none, _ => pure ()
      if (← running) then
        match has given '0', words with
        | true, _ :: _ => wrongCall name "cannot specify --null (-0) with command" 125
        | null, [] => do
          for v in (← get).vars do
            if v.exported then
              v.value.forM fun value =>
                discard (write 1 (v.name ++ "=" ++ value ++ (if null then "\x00" else "\n")))
          endWith (.exited 0)
        | false, program :: _ => do
          let s ← get
          if (s.value? "PATH").isNone then
            set (s.putVariable { name := "PATH", value := some "/bin:/usr/bin" })
          let gaps := program.toList.any fun c => [' ', '\t', '\n', '\x0b', '\x0c', '\r'].contains c
          launchFrom m name Utility.quotedText words
            (if gaps then name ++ ": use -[v]S to pass options in shebang lines\n" else "")

/-! ### Limits of time -/

/-- The processes that were begun by a process, by those, and so on, and itself. -/
def World.family (w : World) (process : Nat) : List Nat :=
  ((List.range w.lives.size).zip w.lives.toList).foldl (fun ps (i, life) =>
    if ps.contains life.parent then ps ++ [firstProcess + i] else ps) [process]

/-- The world in which a process and those that come from it were ended by a signal at a time, as far as
they still ran. -/
def World.cutFamily (w : World) (process signal time : Nat) : World :=
  (w.family process).foldl (fun w p =>
    match (w.life? p).bind (·.ends) with
    | some (ends, _) => if time < ends then w.cutShort p signal time else w
    | none => w) w

/-- The options of a program that limits the time of others. -/
def timeoutOptions : Utility.Options where
  letters := "s:k:vfp"
  names := [("signal", 's'), ("kill-after", 'k'), ("verbose", 'v'), ("foreground", 'f'),
    ("preserve-status", 'p')]
  status := 125

/-- Runs a program for a limited time. -/
def runTimeout (m : Means) (name : String) (args : List String) : Act Unit := do
  withCall name timeoutOptions args fun given words => do
    let signal := (argument? given 's').getD "TERM"
    let invalid := ((argument? given 'k').toList ++ words.head?.toList).find? fun d =>
      (Utility.duration? d).isNone
    match Builtin.signalOf? signal, invalid, words with
    | none, _, _ => wrongCall name (Utility.quotedText signal ++ ": invalid signal") 125
    | some _, _, [] | some _, none, [_] => wrongCall name "" 125
    | some _, some d, _ => wrongCall name ("invalid time interval " ++ Utility.quotedText d) 125
    | some signal, none, limit :: command => do
      let duration := (Utility.duration? limit).getD 0
      let s ← get
      let child ← inSubshell m (fun s => s) (launchFrom m name describeFailed command)
      let limit := s.now + duration
      if duration ≠ 0 && limit < child.ends.1 then do
        modify fun s => { s with world := s.world.cutFamily child.process signal limit }
        waitUntil limit
        if has given 'v' then
          tell (name ++ ": sending signal " ++ Builtin.signalName signal ++ " to command " ++
            Utility.quotedText (command.headD "") ++ "\n")
        endWith (if signal = 9 then .killed 9
          else .exited (if has given 'p' then 128 + signal else 124))
      else do
        waitUntil child.ends.1
        endWith (.exited child.ends.2.code)

/-! ### Words from the input -/

/-- The options of a program that takes words from its input. -/
def xargsOptions : Utility.Options where
  letters := "0rtxpa:d:E:I:L:n:P:s:"
  names := [("null", '0'), ("no-run-if-empty", 'r'), ("verbose", 't'), ("exit", 'x'), ("interactive", 'p'),
    ("arg-file", 'a'), ("delimiter", 'd'), ("replace", 'I'), ("max-lines", 'L'), ("max-args", 'n'),
    ("max-procs", 'P'), ("max-chars", 's')]

/-- What is wrong with the number that an option asks for, if anything is. -/
def numberFault? (given : List Given) (c : Char) : Option String := do
  let text ← argument? given c
  match Builtin.number? text with
  | some 0 => some ("value 0 for -" ++ String.ofList [c] ++ " option should be >= 1")
  | some _ => none
  | none => some ("invalid number \"" ++ text ++ "\" for -" ++ String.ofList [c] ++ " option")

/-- The words of an input as the options tell them apart. -/
def itemsOf (given : List Given) (text : String) : List String :=
  let cutAt (c : Char) : List String :=
    let parts := text.splitOn (String.ofList [c])
    if parts.getLast? == some "" then parts.dropLast else parts
  match argument? given 'I', has given '0', argument? given 'd' with
  | some _, _, _ => (linesOf text).filterMap fun l =>
    let l := String.ofList (l.toList.dropWhile isGap)
    if l = "" then none else some l
  | none, true, _ => cutAt '\x00'
  | none, false, some d => cutAt (if d = "\\n" then '\n' else if d = "\\0" then '\x00' else d.toList.headD '\n')
  | none, false, none => wordsOf text.toList (text.length + 1) none

/-- The calls that words from the input lead to. -/
def callsOf (given : List Given) (words items : List String) : List (List String) :=
  match argument? given 'I', (argument? given 'n').or (argument? given 'L') with
  | some mark, _ => items.map fun i => words.map (·.replace mark i)
  | none, size =>
    if items.isEmpty then if has given 'r' then [] else [words]
    else match size with
      | some n => (groups (max 1 ((Builtin.number? n).getD 1)) items.length items).map (words ++ ·)
      | none => [words ++ items]

/-- Runs programs with words from the input as their arguments, one after another. -/
def runCalls (m : Means) (name : String) (given : List Given) (calls : List (List String)) : Act Unit := do
  let mut code := 0
  for call in calls do
    if code ≠ 127 && code ≠ 126 && code ≠ 124 then
      if has given 't' then tell (" ".intercalate call ++ "\n")
      let child ← inSubshell m (·.connect 0 (.device .null)) (launchFrom m name (fun w => w) call)
      waitUntil child.ends.1
      code := match child.ends.2 with
        | .exited 0 => code
        | .exited 127 => 127
        | .exited 126 => 126
        | .exited 255 => 124
        | .exited _ => 123
        | .killed _ => 125
  endWith (.exited code)

/-- Runs a program with words from the input as its arguments. -/
def runXargs (m : Means) (name : String) (args : List String) : Act Unit := do
  withCall name xargsOptions args fun given words => do
    match (numberFault? given 'n').or (numberFault? given 'L') with
    | some fault => wrongCall name fault 1
    | none => do
      let words := if words.isEmpty then ["echo"] else words
      let run (text : String) : Act Unit := runCalls m name given (callsOf given words (itemsOf given text))
      match argument? given 'a' with
      | none => do run ((← readAll 0).getD "")
      | some path =>
        match ← openPath .read path with
        | .ok ch => do run (String.ofList (((← get).world.contents ch).1.flatMap (·.text)))
        | .error _ =>
          endBlaming name ("Cannot open input file " ++ Utility.inQuotes path ++ ": No such file or directory") 1

/-! ### Other circumstances -/

/-- Runs a program that no hanging up ends. -/
def runNohup (m : Means) (name : String) (args : List String) : Act Unit :=
  withCall name { letters := "", status := 125 } args fun _ words =>
    if words.isEmpty then wrongCall name "missing operand" 125
    else launchFrom m name describeFailed words

/-- The adjustment that an argument is by itself, as a number after one or two signs. -/
def adjustment? (a : String) : Option String :=
  match a.toList with
  | '-' :: c :: d :: cs => if c.isDigit || ((c == '-' || c == '+') && d.isDigit) then
      some (String.ofList (c :: d :: cs)) else none
  | ['-', c] => if c.isDigit then some (String.ofList [c]) else none
  | _ => none

/-- Runs a program with less or more of the processor, or tells how much of it there is. -/
def runNice (m : Means) (name : String) (args : List String) : Act Unit := do
  let front := args.takeWhile fun a => (adjustment? a).isSome
  withCall name { letters := "n:", names := [("adjustment", 'n')], status := 125 } (args.drop front.length)
    fun given words => do
      let number (a : String) : Bool :=
        match a.toList with
        | '-' :: cs | '+' :: cs => !cs.isEmpty && cs.all Char.isDigit
        | cs => !cs.isEmpty && cs.all Char.isDigit
      let adjustment := (argument? given 'n').or (front.getLast?.bind adjustment?)
      match adjustment, words with
      | some _, [] => wrongCall name "a command must be given with an adjustment" 125
      | none, [] => do
        discard (write 1 "0\n")
        endWith (.exited 0)
      | adjustment, words =>
        if adjustment.all number then launchFrom m name Utility.quotedText words
        else endBlaming name ("invalid adjustment " ++ Utility.quotedText (adjustment.getD "")) 125

/-- Runs a program in a session of its own. -/
def runSetsid (m : Means) (name : String) (args : List String) : Act Unit :=
  withCall name { letters := "cfw", names := [("ctty", 'c'), ("fork", 'f'), ("wait", 'w')] } args
    fun given words => do
      let describe (program : String) : String := "failed to execute " ++ program
      if words.isEmpty then wrongCall name "no command specified" 1
      else if has given 'c' then
        endBlaming name "failed to set the controlling terminal: Inappropriate ioctl for device" 1
      else if has given 'f' then do
        discard (inSubshell m (fun s => s) (launchFrom m name describe words))
        endWith (.exited 0)
      else launchFrom m name describe words

/-- Runs a program with other buffers. -/
def runStdbuf (m : Means) (name : String) (args : List String) : Act Unit :=
  withCall name { letters := "i:o:e:", names := [("input", 'i'), ("output", 'o'), ("error", 'e')], status := 125 }
    args fun given words => do
      let invalid := given.find? fun g => g.2 ≠ "L" && (Utility.size? g.2).isNone
      if given.contains ('i', "L") then wrongCall name "line buffering stdin is meaningless" 125
      else match invalid with
      | some (_, mode) => endBlaming name ("invalid mode " ++ Utility.quotedText mode) 125
      | none =>
        if words.isEmpty then wrongCall name "missing operand" 125
        else if given.isEmpty then wrongCall name "you must specify a buffering mode option" 125
        else launchFrom m name describeFailed words

/-! ### Signals -/

/-- How the program that sends signals is to be called. -/
def killUsage : String := "
Usage:
 kill [options] <pid> [...]

Options:
 <pid> [...]            send signal to every <pid> listed
 -<signal>, -s, --signal <signal>
                        specify the <signal> to be sent
 -q, --queue <value>    integer value to be sent with the signal
 -l, --list=[<signal>]  list all signal names, or convert one to a name
 -L, --table            list all signal names in a nice table

 -h, --help     display this help and exit
 -V, --version  output version information and exit

For more details see kill(1).
"

/-- The names of the signals in lines. -/
def signalLines : List String :=
  let names := Signal.all.map fun s => if s.name = "IO" then "POLL" else s.name
  [" ".intercalate (names.take 16), " ".intercalate (names.drop 16)]

/-- Sends a signal to processes, or complains that there is no such signal. -/
def sendAll (name : String) (signal? : Option Nat) (targets : List String) : Act Unit := do
  let mut code := 0
  for t in targets do
    let fault? ← match Builtin.number? t, signal? with
      | none, _ => pure (some ("failed to parse argument: " ++ Utility.inQuotes t))
      | some _, none => pure (some ("(" ++ t ++ "): Invalid argument"))
      | some p, some n => do
        pure (if ← sendSignal p n then none else some ("(" ++ t ++ "): No such process"))
    if let some fault := fault? then
      tell (name ++ ": " ++ fault ++ "\n")
      code := 1
  if (← running) then endWith (.exited code)

/-- Sends signals to processes from a process of its own, or tells the name or number of a signal. -/
def runKill (name : String) (args : List String) : Act Unit := do
  let answer (lines : List String) : Act Unit := do
    discard (write 1 (unlines lines))
    endWith (.exited 0)
  match args with
  | [] => do
    tell killUsage
    endWith (.exited 1)
  | ["-l"] => answer signalLines
  | "-l" :: s :: _ =>
    match Builtin.number? s, Builtin.signalOf? s with
    | some n, _ => answer [Builtin.signalName n]
    | none, some n => answer [toString n]
    | none, none => endBlaming name ("unknown signal name " ++ s) 1
  | "-s" :: signal :: targets => sendAll name (Builtin.signalOf? signal) targets
  | "--" :: targets => sendAll name (some 15) targets
  | a :: targets =>
    match a.toList with
    | '-' :: c :: cs =>
      match Builtin.signalOf? (String.ofList (c :: cs)) with
      | some n => sendAll name (some n) targets
      | none => do
        tell (name ++ ": invalid argument " ++ String.ofList (c :: cs) ++ "\n" ++ killUsage)
        endWith (.exited 1)
    | _ => sendAll name (some 15) (a :: targets)

end ServerTrials.Client.Shell
