import ServerTrials.Client.Shell.Redirection

/-!
The commands that a shell carries out by itself: what they are given, how their options are read, and how
they write.
-/

namespace ServerTrials.Client.Shell

/-- A call of a command that the shell carries out by itself. -/
structure Call where
  means : Means
  role : Role
  args : List String
  /-- The status of the command before. -/
  before : Nat

/-- A command that the shell carries out by itself; the status is zero before it runs. -/
abbrev Builtin := Call → Act Unit

namespace Builtin

/-- The commands that are not special. -/
def regular : List String :=
  ["[", "alias", "bg", "cd", "chdir", "command", "echo", "false", "fg", "getopts", "hash", "jobs", "kill",
    "printf", "pwd", "read", "test", "true", "type", "ulimit", "umask", "unalias", "wait"]

/-- The commands whose words set variables. -/
def setting : List String := ["alias", "export", "local", "readonly"]

/-- Whether a shell carries out a command by itself. -/
def isBuiltin (name : String) : Bool := Reader.specialNames.contains name || regular.contains name

/-! ### Arguments -/

/-- The largest number that an argument may be. -/
def largestNumber : Nat := 2147483647

/-- The number that an argument is. -/
def number? (s : String) : Option Nat :=
  if s ≠ "" && s.toList.all Char.isDigit then
    let n := s.toList.foldl (fun n c => n * 10 + (c.toNat - '0'.toNat)) 0
    if n ≤ largestNumber then some n else none
  else none

/-- Goes on with the number that an argument is, or fails. -/
def withNumber (s : String) (next : Nat → Act Unit) : Act Unit := do
  match number? s with
  | some n => next n
  | none => fail ("Illegal number: " ++ s)

/-- An option and the argument that it takes, empty if it takes none. -/
abbrev Given := Char × String

/-- What is wrong with options. -/
inductive OptionFault where
  | unknown (letter : Char)
  | noArgument (letter : Char)
  deriving DecidableEq, Repr

/-- The wording of a fault in the options of a command of the shell. -/
def OptionFault.wording : OptionFault → String
  | .unknown c => "Illegal option -" ++ String.ofList [c]
  | .noArgument c => "No arg for -" ++ String.ofList [c] ++ " option"

/-- The wording of a fault in the options of a program. -/
def OptionFault.programWording : OptionFault → String
  | .unknown c => "invalid option -- '" ++ String.ofList [c] ++ "'"
  | .noArgument c => "option requires an argument -- '" ++ String.ofList [c] ++ "'"

/-- The options in the letters of an argument, and the option whose argument is to follow. -/
def lettersOf (takes : List (Char × Bool)) : List Char → Except OptionFault (List Given × Option Char)
  | [] => .ok ([], none)
  | c :: cs =>
    match takes.find? (·.1 == c), cs with
    | none, _ => .error (.unknown c)
    | some (_, false), cs => do
      let (more, open?) ← lettersOf takes cs
      .ok ((c, "") :: more, open?)
    | some (_, true), [] => .ok ([], some c)
    | some (_, true), cs => .ok ([(c, String.ofList cs)], none)

/-- The options at the front of arguments and the arguments after them. `takes` says which letters there
are and which of them take an argument. -/
def options (takes : List (Char × Bool)) : List String → Except OptionFault (List Given × List String)
  | [] => .ok ([], [])
  | a :: rest =>
    match a.toList with
    | ['-', '-'] => .ok ([], rest)
    | '-' :: c :: cs => do
      let (given, open?) ← lettersOf takes (c :: cs)
      match open?, rest with
      | none, rest => do
        let (more, after) ← options takes rest
        .ok (given ++ more, after)
      | some o, b :: rest => do
        let (more, after) ← options takes rest
        .ok (given ++ (o, b) :: more, after)
      | some o, [] => .error (.noArgument o)
    | _ => .ok ([], a :: rest)

/-- Goes on with the options and the other arguments, or fails. -/
def withOptions (takes : List (Char × Bool)) (args : List String)
    (next : List Char → List String → Act Unit) : Act Unit := do
  match options takes args with
  | .ok (given, rest) => next (given.map (·.1)) rest
  | .error e => fail e.wording

/-! ### Outputs -/

/-- Writes to the output; what cannot be written is remembered. -/
def say (text : String) : Act Unit := do
  if !(← write 1 text) then
    modify ({ · with unwritten := true })

/-- Writes a line to the output. -/
def sayLine (text : String) : Act Unit := say (text ++ "\n")

/-- A text in quotes, as a shell reads it back: runs of single quotes stand in double ones. Each turn takes
characters. -/
def quotedFrom : Nat → List Char → String
  | 0, _ => ""
  | n + 1, cs =>
    let plain := cs.takeWhile (· != '\'')
    let rest := cs.drop plain.length
    let quotes := rest.takeWhile (· == '\'')
    let after := rest.drop quotes.length
    "'" ++ String.ofList plain ++ "'" ++ (if quotes.isEmpty then "" else
      "\"" ++ String.ofList quotes ++ "\"" ++ (if after.isEmpty then "" else quotedFrom n after))

/-- A text in quotes, as a shell reads it back. -/
def quoted (s : String) : String := quotedFrom (s.length + 1) s.toList

end Builtin
end ServerTrials.Client.Shell
