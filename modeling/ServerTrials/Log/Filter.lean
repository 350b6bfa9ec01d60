import ServerTrials.Log.Event

/-!
Filters of log events.

A filter is a comma list of directives: a level for all components, a component's name for all its
events, or `name=level`. A name selects every component whose name begins with it, and of the
directives that select a component the one with the longest name decides. No directive at all lets
errors pass; a text that is no filter, and no text, stand for the level of information.
-/

namespace ServerTrials.Log

/-- A directive: the component names it selects by their beginning, and how fine the events are that it
lets pass, as the rank of a level or zero for none. -/
structure Directive where
  target : String
  rank : Nat
  deriving DecidableEq, Repr

/-- A filter is a list of directives. -/
abbrev Filter := List Directive

namespace Filter

/-- The names of the ranks from zero on. -/
def rankNames : List String := ["off", "error", "warn", "info", "debug", "trace"]

/-- A text in lower case; letters beyond ASCII stay. -/
def lower (s : String) : String := String.ofList (s.toList.map Char.toLower)

/-- The rank that a text names: a digit, the name of a level in any case, or nothing for errors. -/
def rank? (s : String) : Option Nat :=
  if s = "" then some 1
  else
    match rankNames.idxOf? (lower s) with
    | some rank => some rank
    | none =>
      match s.toList with
      | [c] => if '0' ≤ c ∧ c ≤ '5' then some (c.toNat - '0'.toNat) else none
      | _ => none

/-- The rank of the finest events. -/
def finest : Nat := 5

/-- Whether a directive may begin with that character. -/
def beginsDirective (c : Char) : Bool := c.isAlphanum || c == '-' || c == ':' || c == '_'

/-- The directive that a text spells. -/
def directive? (s : String) : Option Directive :=
  match s.toList with
  | [] => none
  | c :: cs =>
    if !beginsDirective c then none
    else
      let name := String.ofList ((c :: cs).takeWhile (· != '='))
      match (c :: cs).dropWhile (· != '=') with
      | [] =>
        match rank? name with
        | some rank => some ⟨"", rank⟩
        | none => some ⟨name, finest⟩
      | _ :: [] => some ⟨name, finest⟩
      | _ :: level => (rank? (String.ofList level)).map (⟨name, ·⟩)

/-- The pieces of a text between commas. -/
def pieces (cs : List Char) : List (List Char) :=
  match cs with
  | [] => [[]]
  | ',' :: rest => [] :: pieces rest
  | c :: rest =>
    match pieces rest with
    | [] => [[c]]
    | p :: ps => (c :: p) :: ps

/-- The filter that lets events up to a rank pass. -/
def upTo (rank : Nat) : Filter := [⟨"", rank⟩]

/-- The filter that a text spells. -/
def ofText? (s : String) : Option Filter :=
  let texts := ((pieces s.toList).filter (· ≠ [])).map String.ofList
  if texts = [] then some (upTo 1) else texts.mapM directive?

/-- The filter used without a usable text. -/
def default : Filter := upTo 3

/-- The filter of a setting. -/
def ofSetting (setting : Option String) : Filter := (setting.bind ofText?).getD default

/-- The longer of two directives, the later one if they are equally long. -/
def longer (best : Option Directive) (d : Directive) : Option Directive :=
  match best with
  | none => some d
  | some b => if d.target.length < b.target.length then some b else some d

/-- The directive that decides about a component. -/
def deciding? (f : Filter) (component : Component) : Option Directive :=
  (f.filter fun d => d.target.toList.isPrefixOf component.name.toList).foldl longer none

/-- Whether an event passes. -/
def passes (f : Filter) (e : Event) : Bool :=
  match f.deciding? e.component with
  | some d => e.level.rank ≤ d.rank
  | none => false

/-- The events that pass. -/
def apply (f : Filter) (es : List Event) : List Event := es.filter f.passes

end Filter

/-- Counts one more occurrence of a title. -/
def addCount (title : String) : List (String × Nat) → List (String × Nat)
  | [] => [(title, 1)]
  | (t, n) :: rest => if t = title then (t, n + 1) :: rest else (t, n) :: addCount title rest

/-- How often each title occurs. -/
def countTitles (es : List Event) : List (String × Nat) :=
  es.foldl (fun counts e => addCount e.title counts) []

end ServerTrials.Log
