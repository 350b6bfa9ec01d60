import ServerTrials.Client.Pattern
import ServerTrials.Client.Utility.Basic
import ServerTrials.Client.Utility.Printf

/-!
Programs that tell about the machine and the process, and those that do what the shell can do by itself.
-/

namespace ServerTrials.Client.Utility

/-! ### Texts -/

/-- What the options of the program `echo` ask for. -/
def echoLetters? (s : String) : Option (List Char) :=
  match s.toList with
  | '-' :: c :: cs => if (c :: cs).all "neE".toList.contains then some (c :: cs) else none
  | _ => none

/-- The escapes of the program `echo`, of which a number in base sixteen is one. -/
def echoEscapes (cs : List Char) : List Char :=
  let digit (c : Char) : Nat := if c.isDigit then c.toNat - '0'.toNat else c.toLower.toNat - 'a'.toNat + 10
  let rec go : List Char → List Char
    | '\\' :: '\\' :: rest => '\\' :: '\\' :: go rest
    | '\\' :: 'x' :: a :: b :: rest =>
      if inClass "xdigit" a && inClass "xdigit" b then
        let ds := (Nat.toDigits 8 (digit a * 16 + digit b))
        '\\' :: '0' :: (List.replicate (3 - ds.length) '0' ++ ds) ++ go rest
      else '\\' :: 'x' :: go (a :: b :: rest)
    | c :: rest => c :: go rest
    | [] => []
  go cs

/-- Writes its arguments; options at the front take away the line end or bring escapes in. -/
def echoProgram : Program := do
  let args := (← read).args
  let options := args.takeWhile fun a => (echoLetters? a).isSome
  let letters := (options.filterMap echoLetters?).flatten
  let line := " ".intercalate (args.drop options.length)
  let (text, stops) := if (letters.filter (· != 'n')).getLast? == some 'e' then
      escapedText (String.ofList (echoEscapes line.toList))
    else (line, false)
  put (if letters.contains 'n' || stops then text else text ++ "\n")

/-- Writes a line again and again. -/
def yes : Program := do
  let (_, operands) ← options { letters := "" }
  let line := (if operands.isEmpty then "y" else " ".intercalate operands) ++ "\n"
  let block := String.join (List.replicate (8192 / line.length + 1) line)
  for _ in List.range 50 do
    put block
  modify ({ · with slept := none })

/-! ### Surroundings -/

/-- Writes variables. -/
def printenv : Program := do
  let (_, operands) ← options { letters := "0" }
  let env := (← read).env
  if operands.isEmpty then putLines (env.map fun v => v.1 ++ "=" ++ v.2)
  else
    for name in operands do
      match env.find? (·.1 == name) with
      | some (_, value) => put (value ++ "\n")
      | none => leave 1

/-- Writes the name of the user. -/
def whoami : Program := do
  let (_, operands) ← options { letters := "" }
  atMost 0 operands
  put "root\n"

/-- Writes the numbers of the user and the groups. -/
def userNumbers : Program := do
  let (given, operands) ← options { letters := "agGnruz" }
  for user in operands do
    if user ≠ "root" && user ≠ "0" then fail (quotedText user ++ ": no such user")
  if has given 'u' || has given 'g' || has given 'G' then put (if has given 'n' then "root\n" else "0\n")
  else put "uid=0(root) gid=0(root) groups=0(root)\n"

/-- Writes what kind of machine it is. -/
def uname : Program := do
  let (given, operands) ← options
    { letters := "asnrvmpio", names := [("kernel-name", 's'), ("machine", 'm'), ("operating-system", 'o')] }
  atMost 0 operands
  let all := has given 'a'
  let wanted (c : Char) : Bool := all || has given c || (given.isEmpty && c == 's')
  let parts := [('s', "Linux"), ('n', "localhost"), ('r', "6.0.0"), ('v', "#1 SMP"), ('m', "x86_64"),
    ('o', "GNU/Linux")]
  put (" ".intercalate ((parts.filter fun p => wanted p.1).map (·.2)) ++ "\n")

/-- Tells whether the input is a terminal, which it is not. -/
def tty : Program := do
  let (given, operands) ← options { letters := "s", names := [("silent", 's'), ("quiet", 's')], status := 2 }
  atMost 0 operands 2
  if !has given 's' then put "not a tty\n"
  leave 1

/-- Would tell how the terminal is set, which there is none. -/
def stty : Program := fail "'standard input': Inappropriate ioctl for device"

/-- Writes one line. -/
def saying (letters line : String) : Program := do
  let (_, operands) ← options { letters }
  atMost 0 operands
  put (line ++ "\n")

/-- Writes where programs lie. -/
def which : Program := do
  let r ← read
  let letters := (r.args.takeWhile fun a => a ≠ "--" && (a.toList.head? == some '-') && a ≠ "-").map (·.toList.drop 1)
  match letters.flatten.find? fun c => c != 'a' && c != 's' with
  | some c => do
    warn ("Illegal option -" ++ String.ofList [c] ++ "\n")
    put "Usage: /usr/bin/which [-as] args\n"
    stopWith 2
  | none => pure ()
  let (given, operands) ← options { letters := "as", ordered := true }
  let files := (← get).files
  let path := ((r.env.find? (·.1 == "PATH")).map (·.2)).getD "/usr/local/bin:/usr/bin:/bin"
  let isProgram (p : String) : Bool := files.find r.cwd p matches .ok (_, .file _ true)
  for name in operands do
    let found := if name.toList.contains '/' then (if isProgram name then [name] else [])
      else ((path.splitOn ":").map (· ++ "/" ++ name)).filter isProgram
    let found := if has given 'a' then found else found.take 1
    if found.isEmpty then leave 1
    if !has given 's' then putLines found
  if operands.isEmpty then leave 1

end ServerTrials.Client.Utility
