import ServerTrials.Client.Pattern

/-!
Regular expressions and where they match.

An expression takes a text from a place to every place at which it can end, the preferred ones first. Among
all ends the furthest one counts, and the search begins as far to the left as it can. Groups remember what
they have taken, and a later part may ask for that again.
-/

namespace ServerTrials.Client

/-- A regular expression. -/
inductive Regex where
  /-- The empty text. -/
  | empty
  /-- A character that a set holds, or does not hold. -/
  | set (negated : Bool) (parts : List SetPart)
  /-- The beginning of a line. -/
  | lineStart
  /-- The end of a line. -/
  | lineEnd
  /-- A place between two characters: outside words, at the beginning of a word, at its end, or inside. -/
  | junction (outside opens closes inside : Bool)
  /-- What a group has taken. -/
  | again (group : Nat)
  /-- What is taken is remembered. -/
  | group (number : Nat) (r : Regex)
  | sequence (a b : Regex)
  | either (a b : Regex)
  /-- As often as between two numbers of times. -/
  | repeated (r : Regex) (least : Nat) (most : Option Nat)
  deriving Repr, Inhabited

namespace Regex

/-- A place in a text: the character before it, the characters from there on, how far it is from the
beginning, and what the groups have taken. -/
structure Place where
  before : Option Char
  rest : List Char
  offset : Nat
  groups : List (Nat × Nat × Nat) := []
  deriving DecidableEq, Repr

/-- What a group has taken: where it began and ended. -/
def Place.group? (p : Place) (n : Nat) : Option (Nat × Nat) := (p.groups.find? (·.1 == n)).map (·.2)

/-- The place after some characters. -/
def Place.advance (p : Place) : Nat → Place
  | 0 => p
  | n + 1 =>
    match p.rest with
    | [] => p
    | c :: cs => Place.advance { p with before := some c, rest := cs, offset := p.offset + 1 } n

/-- Whether a character belongs to words. -/
def isWordChar (c : Char) : Bool := c.isAlphanum || c == '_'

/-- How characters are compared and where lines end. -/
structure Style where
  anyCase : Bool := false
  /-- Whether a line end inside the text begins a line. -/
  lines : Bool := false

/-- Whether a set holds a character. -/
def Style.holds (s : Style) (parts : List SetPart) (c : Char) : Bool :=
  parts.any (·.holds c) || (s.anyCase && (parts.any (·.holds c.toLower) || parts.any (·.holds c.toUpper)))

/-- Keeps the first of the places that are the same. -/
def distinct (ps : List Place) : List Place :=
  ps.foldl (fun acc p =>
    if acc.any fun q => q.offset == p.offset && q.groups == p.groups then acc else acc ++ [p]) []

/-- Goes on from a place as often as possible and as often as that gets further, the furthest first. -/
def closure (next : Place → List Place) : Nat → List Place → Place → List Place
  | 0, seen, p => seen ++ [p]
  | n + 1, seen, p =>
    let further := (next p).filter fun q => p.offset < q.offset
    let seen := further.foldl (fun seen q =>
      if seen.any fun r => r.offset == q.offset && r.groups == q.groups then seen
      else closure next n seen q) seen
    if seen.any fun r => r.offset == p.offset && r.groups == p.groups then seen else seen ++ [p]

/-- Goes on from a place exactly so many times. -/
def times (next : Place → List Place) : Nat → Place → List Place
  | 0, p => [p]
  | n + 1, p => distinct ((next p).flatMap (times next n))

/-- Goes on from a place up to so many times, the most first. -/
def upTo (next : Place → List Place) : Nat → Place → List Place
  | 0, p => [p]
  | n + 1, p => distinct ((((next p).filter fun q => p.offset < q.offset).flatMap (upTo next n)) ++ [p])

/-- The places at which an expression can end that begins at a place. -/
def ends (style : Style) (text : List Char) : Regex → Place → List Place
  | .empty, p => [p]
  | .set negated parts, p =>
    match p.rest with
    | c :: _ => if style.holds parts c != negated then [p.advance 1] else []
    | [] => []
  | .lineStart, p => if p.offset = 0 || (style.lines && p.before == some '\n') then [p] else []
  | .lineEnd, p => if p.rest.isEmpty || (style.lines && p.rest.head? == some '\n') then [p] else []
  | .junction outside opens closes inside, p =>
    let allowed := match p.before.any isWordChar, p.rest.head?.any isWordChar with
      | false, false => outside
      | false, true => opens
      | true, false => closes
      | true, true => inside
    if allowed then [p] else []
  | .again n, p =>
    match p.group? n with
    | some (start, stop) =>
      let taken := (text.drop start).take (stop - start)
      let same := if style.anyCase then
          (p.rest.take taken.length).map Char.toLower == taken.map Char.toLower
        else p.rest.take taken.length == taken
      if same && taken.length ≤ p.rest.length then [p.advance taken.length] else []
    | none => []
  | .group n r, p =>
    (r.ends style text p).map fun q =>
      { q with groups := (n, p.offset, q.offset) :: q.groups.filter (·.1 ≠ n) }
  | .sequence a b, p => distinct ((a.ends style text p).flatMap (b.ends style text))
  | .either a b, p => distinct (a.ends style text p ++ b.ends style text p)
  | .repeated r least most, p =>
    let next := r.ends style text
    let rest (q : Place) : List Place :=
      match most with
      | none => closure next (q.rest.length + 1) [] q
      | some m => upTo next (m - least) q
    distinct ((times next least p).flatMap rest)

/-- A match: where it begins and ends and what the groups have taken. -/
structure Match where
  start : Nat
  stop : Nat
  groups : List (Nat × Nat × Nat)
  deriving DecidableEq, Repr

/-- The furthest of the places at which an expression ends, the preferred one of those. -/
def furthest : List Place → Option Place
  | [] => none
  | p :: ps =>
    match furthest ps with
    | some q => if p.offset < q.offset then some q else some p
    | none => some p

/-- The first match at or after a place; each turn goes one character on. -/
def findFrom (style : Style) (text : List Char) (r : Regex) : Nat → Place → Option Match
  | 0, _ => none
  | n + 1, p =>
    match furthest (r.ends style text p) with
    | some q => some ⟨p.offset, q.offset, q.groups⟩
    | none => if p.rest.isEmpty then none else findFrom style text r n (p.advance 1)

/-- The first match in a text that begins at an offset or after it. -/
def find (style : Style) (r : Regex) (text : List Char) (offset : Nat) : Option Match :=
  if text.length < offset then none
  else
    let start : Place := Place.advance ⟨none, text, 0, []⟩ offset
    findFrom style text r (text.length + 1) start

/-- The match that begins at the beginning of a text. -/
def findAtStart (style : Style) (r : Regex) (text : List Char) : Option Match :=
  (furthest (r.ends style text ⟨none, text, 0, []⟩)).map fun q => ⟨0, q.offset, q.groups⟩

/-- The matches in a text one after the other; an empty one right after another match does not count. -/
def findAll (style : Style) (r : Regex) (text : List Char) : Nat → Nat → Option Nat → List Match
  | 0, _, _ => []
  | n + 1, offset, last =>
    match r.find style text offset with
    | none => []
    | some m =>
      if m.start = m.stop then
        let rest := findAll style r text n (m.stop + 1) last
        if last == some m.start then rest else m :: rest
      else m :: findAll style r text n m.stop (some m.stop)

/-- All matches in a text. -/
def all (style : Style) (r : Regex) (text : List Char) : List Match :=
  findAll style r text (text.length + 2) 0 none

/-- The text that a match has taken, or one of its groups. -/
def Match.taken (m : Match) (text : List Char) (group : Nat) : List Char :=
  let (start, stop) := if group = 0 then (m.start, m.stop)
    else ((m.groups.find? (·.1 == group)).map (·.2)).getD (0, 0)
  (text.drop start).take (stop - start)

/-- How many groups an expression has. -/
def groupCount : Regex → Nat
  | .group n r => max n r.groupCount
  | .sequence a b | .either a b => max a.groupCount b.groupCount
  | .repeated r _ _ => r.groupCount
  | _ => 0

/-- The expression where it takes whole words. -/
def wholeWords (r : Regex) : Regex :=
  .sequence (.junction true true false false) (.sequence r (.junction true false true false))

/-- The expression where it takes whole lines. -/
def wholeLines (r : Regex) : Regex := .sequence .lineStart (.sequence r .lineEnd)

/-- The expression that matches one character. -/
def char (c : Char) : Regex := .set false [.range c c]

/-- The expression that matches a text. -/
def ofText (cs : List Char) : Regex := cs.foldr (fun c r => .sequence (char c) r) .empty

end Regex
end ServerTrials.Client
