/-!
The commands of a shell and the words they are made of.

A word is a list of parts; a part inside quotes is taken as it is, one outside may be cut into several
texts and stand for the names of files.
-/

namespace ServerTrials.Client.Shell

/-- What may stand in for a parameter that is not set: a text, a text that is stored as well, a text in
place of the value, or a complaint. -/
inductive Fallback where
  | default
  | assign
  | replace
  | complain
  deriving DecidableEq, Repr

/-- How a redirection opens its file. -/
inductive Opening where
  | read
  | write (force : Bool)
  | append
  | readWrite
  deriving DecidableEq, Repr

mutual

/-- A part of a word. -/
inductive Part where
  /-- A character. -/
  | char (c : Char) (quoted : Bool)
  /-- Quotes around nothing. -/
  | nothing
  /-- What a parameter stands for. -/
  | parameter (name : String) (form : Form) (quoted : Bool)
  /-- The output of commands. -/
  | output (body : Command) (quoted : Bool)
  /-- The value of an expression. -/
  | arithmetic (expression : List Part) (quoted : Bool)

/-- What is taken of a parameter. -/
inductive Form where
  /-- Its value. -/
  | value
  /-- The length of its value. -/
  | length
  /-- Its value, unless it is not set (or empty, if that counts as well). -/
  | fallback (how : Fallback) (orEmpty : Bool) (word : List Part)
  /-- Its value without what a pattern matches at one of its ends. -/
  | trim (atEnd longest : Bool) (pattern : List Part)
  /-- A form that does not exist. -/
  | bad

/-- A redirection of a descriptor. -/
inductive Redirect where
  /-- To or from a file. -/
  | file (descriptor : Nat) (opening : Opening) (path : List Part)
  /-- To where another descriptor leads, or to nowhere. -/
  | duplicate (descriptor : Nat) (source : List Part)
  /-- From a text in the script. -/
  | here (descriptor : Nat) (body : List Part)

/-- A command. -/
inductive Command where
  /-- Nothing to do. -/
  | skip
  /-- Variables set for a command, its words and its redirections. -/
  | simple (line : Nat) (sets : List (String × List Part)) (words : List (List Part))
      (redirects : List Redirect)
  /-- Commands that feed each other. -/
  | pipeline (stages : List Command)
  /-- A command whose success counts as failure. -/
  | negated (c : Command)
  /-- The second command runs if the first succeeds. -/
  | both (a b : Command)
  /-- The second command runs if the first fails. -/
  | either (a b : Command)
  /-- One command after the other. -/
  | sequence (a b : Command)
  /-- A command that is not waited for. -/
  | background (c : Command)
  /-- A command in a shell of its own. -/
  | subshell (c : Command)
  /-- A command with redirections around it. -/
  | redirected (line : Nat) (c : Command) (redirects : List Redirect)
  /-- A branch. -/
  | branch (condition body otherwise : Command)
  /-- A loop that turns while its condition succeeds, or while it fails. -/
  | loop (whileFails : Bool) (condition body : Command)
  /-- A loop over texts, over all arguments if there are no words. -/
  | each (line : Nat) (name : String) (words : Option (List (List Part))) (body : Command)
  /-- The first arm with a pattern that the word matches. -/
  | choose (line : Nat) (word : List Part) (arms : List Arm)
  /-- The definition of a function. -/
  | define (name : String) (body : Command)

/-- An arm of a choice. -/
inductive Arm where
  | mk (patterns : List (List Part)) (body : Command)

end

instance : Inhabited Command := ⟨.skip⟩

/-- A word before its parts are filled in. -/
abbrev Word := List Part

/-- The characters of a text as parts inside quotes. -/
def Word.quoted (cs : List Char) : Word := cs.map (.char · true)

/-- The character of a part that is one outside quotes. -/
def Part.plain? : Part → Option Char
  | .char c false => some c
  | _ => none

/-- The text of a word that is nothing but text outside quotes. -/
def Word.plain? (w : Word) : Option String := (w.mapM Part.plain?).map String.ofList

end ServerTrials.Client.Shell
