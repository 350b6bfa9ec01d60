import ServerTrials.Client.Shell.State

/-!
Running texts: a shell reads a line, runs its commands and goes on with the next one.

So a mistake in a line shows only when the lines before it have run, and a name that they have given to
another text is read as that text.
-/

namespace ServerTrials.Client.Shell

/-- Runs the commands of a source line by line; answers whether there were any. Each turn takes a line. -/
def runLines (m : Means) (role : Role) : Nat → Bool → Source → Act Bool
  | 0, any, _ => return any
  | n + 1, any, src => do
    let s ← get
    match Reader.nextLine.run { src with aliases := s.aliases } with
    | .ok none _ => do
      if s.has 'v' then tell (String.ofList src.chars)
      return any
    | .ok (some c) rest => do
      if s.has 'v' then tell (String.ofList (src.chars.take (src.chars.length - rest.chars.length)))
      m.run { role with last := role.last && rest.chars.isEmpty } c
      if (← running) then runLines m role n true rest else return true
    | .error e rest => do
      set { s with line := rest.line }
      fail ("Syntax error: " ++ e)
      return true

/-- Runs the commands of a text; answers whether there were any. -/
def runText (m : Means) (role : Role) (text : String) : Act Bool :=
  runLines m role (text.length + 1) false { chars := text.toList }

end ServerTrials.Client.Shell
