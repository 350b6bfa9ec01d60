/-!
Patterns of file names and texts: `*` for any text, `?` for any character, `[…]` for one of a set.

A character that was quoted stands for itself. A set may be given by ranges and by classes, and `!` at its
beginning turns it around; a bracket that opens no set stands for itself.
-/

namespace ServerTrials.Client

/-- A character of a pattern and whether it was quoted. -/
abbrev Glyph := Char × Bool

/-- What a set holds: the characters between two, or those of a class. -/
inductive SetPart where
  | range (low high : Char)
  | named (name : String)
  deriving DecidableEq, Repr

/-- One step of a pattern. -/
inductive Pattern.Item where
  | char (c : Char)
  | one
  | many
  | set (negated : Bool) (parts : List SetPart)
  deriving DecidableEq, Repr

/-- A pattern is a list of steps. -/
abbrev Pattern := List Pattern.Item

/-- Whether a character belongs to the class of that name. -/
def inClass (name : String) (c : Char) : Bool :=
  match name with
  | "alpha" => c.isAlpha
  | "digit" => c.isDigit
  | "alnum" => c.isAlphanum
  | "upper" => c.isUpper
  | "lower" => c.isLower
  | "space" => c == ' ' || (0x09 ≤ c.toNat && c.toNat ≤ 0x0D)
  | "blank" => c == ' ' || c == '\t'
  | "punct" => 0x20 < c.toNat && c.toNat < 0x7F && !c.isAlphanum
  | "xdigit" => c.isDigit || ('a' ≤ c && c ≤ 'f') || ('A' ≤ c && c ≤ 'F')
  | "cntrl" => c.toNat < 0x20 || c.toNat == 0x7F
  | "print" => 0x20 ≤ c.toNat && c.toNat < 0x7F
  | "graph" => 0x20 < c.toNat && c.toNat < 0x7F
  | _ => false

/-- Whether a part of a set holds a character. -/
def SetPart.holds (p : SetPart) (c : Char) : Bool :=
  match p with
  | .range low high => low ≤ c && c ≤ high
  | .named name => inClass name c

namespace Pattern

/-- Whether a step takes a single character, and takes that one. -/
def Item.takes (i : Item) (c : Char) : Bool :=
  match i with
  | .char d => c == d
  | .one => true
  | .many => false
  | .set negated parts => parts.any (·.holds c) != negated

/-- The parts of a set up to its closing bracket; `opening` holds at its beginning, where a closing bracket
stands for itself. -/
def setParts : Nat → Bool → List Glyph → Option (List SetPart × List Glyph)
  | 0, _, _ => none
  | n + 1, opening, gs =>
    match gs with
    | [] => none
    | (']', false) :: rest =>
      if opening then do
        let (parts, rest) ← setParts n false rest
        some (.range ']' ']' :: parts, rest)
      else some ([], rest)
    | ('[', false) :: (':', false) :: rest =>
      let name := (rest.takeWhile fun g => g.1.isAlpha).map (·.1)
      match rest.drop name.length with
      | (':', _) :: (']', _) :: rest => do
        let (parts, rest) ← setParts n false rest
        some (.named (String.ofList name) :: parts, rest)
      | _ => do
        let (parts, rest) ← setParts n false ((':', false) :: rest)
        some (.range '[' '[' :: parts, rest)
    | (low, _) :: ('-', false) :: (high, q) :: rest =>
      if high == ']' && !q then do
        let (parts, rest) ← setParts n false (('-', false) :: (high, q) :: rest)
        some (.range low low :: parts, rest)
      else do
        let (parts, rest) ← setParts n false rest
        some (.range low high :: parts, rest)
    | (c, _) :: rest => do
      let (parts, rest) ← setParts n false rest
      some (.range c c :: parts, rest)

/-- The set after its opening bracket. -/
def readSet (gs : List Glyph) : Option (Item × List Glyph) :=
  match gs with
  | ('!', false) :: rest => (setParts (gs.length + 1) true rest).map fun r => (.set true r.1, r.2)
  | gs => (setParts (gs.length + 1) true gs).map fun r => (.set false r.1, r.2)

/-- The pattern of some characters; each turn takes one. -/
def ofGlyphsUpTo : Nat → List Glyph → Pattern
  | 0, _ => []
  | n + 1, gs =>
    match gs with
    | [] => []
    | ('*', false) :: rest => .many :: ofGlyphsUpTo n rest
    | ('?', false) :: rest => .one :: ofGlyphsUpTo n rest
    | ('[', false) :: rest =>
      match readSet rest with
      | some (item, rest) => item :: ofGlyphsUpTo n rest
      | none => .char '[' :: ofGlyphsUpTo n rest
    | ('\\', false) :: (c, _) :: rest => .char c :: ofGlyphsUpTo n rest
    | (c, _) :: rest => .char c :: ofGlyphsUpTo n rest

/-- The pattern of some characters. -/
def ofGlyphs (gs : List Glyph) : Pattern := ofGlyphsUpTo gs.length gs

/-- The pattern of a text in which nothing is quoted. -/
def ofString (s : String) : Pattern := ofGlyphs (s.toList.map (·, false))

/-- Whether a pattern has a step other than a character. -/
def isOpen (p : Pattern) : Bool := p.any fun i =>
  match i with
  | .char _ => false
  | _ => true

/-- Whether a pattern matches all of a text. -/
def accepts : Pattern → List Char → Bool
  | [], cs => cs.isEmpty
  | .many :: p, cs => (List.range (cs.length + 1)).any fun n => accepts p (cs.drop n)
  | i :: p, c :: cs => i.takes c && accepts p cs
  | _ :: _, [] => false

/-- The text without what the pattern matches at its beginning. -/
def trimStart (p : Pattern) (longest : Bool) (cs : List Char) : List Char :=
  let sizes := List.range (cs.length + 1)
  match (if longest then sizes.reverse else sizes).find? fun n => p.accepts (cs.take n) with
  | some n => cs.drop n
  | none => cs

/-- The text without what the pattern matches at its end. -/
def trimEnd (p : Pattern) (longest : Bool) (cs : List Char) : List Char :=
  let sizes := List.range (cs.length + 1)
  match (if longest then sizes else sizes.reverse).find? fun n => p.accepts (cs.drop n) with
  | some n => cs.take n
  | none => cs

end Pattern
end ServerTrials.Client
