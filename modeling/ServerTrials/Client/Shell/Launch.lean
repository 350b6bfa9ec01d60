import ServerTrials.Client.Shell.Launcher

/-!
Launching: what happens when a program takes the place of a shell.

A program of the machine is known by its place. Any other file that may be run is a script: its first line
says what runs it, and without such a line a shell does.
-/

namespace ServerTrials.Client.Shell

/-- Runs what lies at a path in this process, under the name it was called by. -/
def runAt (m : Means) (path name : String) (args : List String) : Act Unit := do
  let s ← get
  let place := Files.locate s.cwd path
  let kind := if Files.parent place == "/usr/bin" then Files.lastPart place else ""
  match s.world.files.node? place, kind with
  | some (.file "" true), "sh" | some (.file "" true), "dash" | some (.file "" true), "bash" =>
    runShell m name args
  | some (.file "" true), "env" => runEnv m name args
  | some (.file "" true), "timeout" => runTimeout m name args
  | some (.file "" true), "xargs" => runXargs m name args
  | some (.file "" true), "kill" => runKill name args
  | some (.file "" true), "nohup" => runNohup m name args
  | some (.file "" true), "nice" => runNice m name args
  | some (.file "" true), "setsid" => runSetsid m name args
  | some (.file "" true), "stdbuf" => runStdbuf m name args
  | some (.file content true), kind =>
    match Utility.program? kind with
    | some p => if content = "" then perform m p name args else script content
    | none => script content
  | _, _ => endWith (.exited 127)
where
  /-- Runs a script. -/
  script (content : String) : Act Unit := do
    match interpreter content with
    | program :: more =>
      if ["/bin/sh", "/usr/bin/sh", "/bin/dash", "/bin/bash", "/usr/bin/bash"].contains program then
        runShell m program (more ++ path :: args)
      else
        match Builtin.findProgram (← get) program with
        | .ok _ => m.launch (program :: more ++ path :: args)
        | .error e => do
          complain (path ++ ": not found")
          endWith (.exited e.status)
    | [] => endWith (.exited 126)

/-- Runs a program in this process in place of the shell. -/
def launchHere (m : Means) (words : List String) : Act Unit := do
  modify fun s => { s with traps := s.traps.filter fun t => t.1 ≠ 0 && t.2 == "" }
  match words with
  | [] => endWith (.exited 0)
  | name :: args =>
    match Builtin.findProgram (← get) name with
    | .ok path => do
      modify fun s => { s with now := s.now + loadTime }
      runAt m path name args
    | .error e => do
      complain (name ++ ": " ++ e.shellWording)
      endWith (.exited e.status)

end ServerTrials.Client.Shell
