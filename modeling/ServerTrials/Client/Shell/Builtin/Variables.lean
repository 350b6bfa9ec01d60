import ServerTrials.Client.Shell.Builtin.Basic

/-!
Commands on variables, arguments, options and other names.
-/

namespace ServerTrials.Client.Shell.Builtin

open Reader (isName)

/-! ### Marks -/

/-- Variables in the order of their names. -/
def inOrder (vs : List Variable) : List Variable :=
  vs.mergeSort fun a b => decide (a.name ≤ b.name)

/-- Writes variables so that a shell can read them back. -/
def sayVariables (lead : String) (vs : List Variable) : Act Unit := do
  for v in inOrder vs do
    sayLine (lead ++ v.name ++
      match v.value with
      | some value => "=" ++ quoted value
      | none => "")

/-- The name in an argument and the value after its sign. -/
def splitSet (a : String) : String × Option String :=
  match a.splitOn "=" with
  | [name] => (name, none)
  | name :: rest => (name, some ("=".intercalate rest))
  | [] => ("", none)

/-- Marks variables, which may be set at the same time. -/
def markVariables (mark : Variable → Variable) : List String → Act Unit
  | [] => pure ()
  | a :: rest => do
    let (name, value) := splitSet a
    if !isName name then fail (name ++ ": bad variable name")
    else do
      match value with
      | some value => assign name value
      | none => pure ()
      if (← running) then
        modify fun s => s.putVariable (mark ((s.binding? name).getD { name, value := none }))
        markVariables mark rest

/-- Gives a mark to variables, or writes those that have it. -/
def marking (lead : String) (has : Variable → Bool) (mark : Variable → Variable) : Builtin := fun c => do
  withOptions [('p', false)] c.args fun given args => do
    if given.contains 'p' || args.isEmpty then sayVariables lead ((← get).vars.filter has)
    else markVariables mark args

/-- Hands variables on to programs. -/
def exports : Builtin := marking "export " (·.exported) ({ · with exported := true })

/-- Fixes variables. -/
def fixes : Builtin := marking "readonly " (·.fixed) ({ · with fixed := true })

/-- Remembers a variable for the end of the function. -/
def remember (name : String) : Act Unit := modify fun s =>
  match s.locals with
  | l :: ls =>
    if l.any (·.1 == name) then s else { s with locals := ((name, s.binding? name) :: l) :: ls }
  | [] => s

/-- Remembers the options for the end of the function, under a name that no variable has. -/
def rememberOptions : Act Unit := modify fun s =>
  match s.locals with
  | l :: ls =>
    if l.any (·.1 == "-") then s
    else
      let kept : Variable := { name := "-", value := some (String.ofList s.options) }
      { s with locals := (("-", some kept) :: l) :: ls }
  | [] => s

/-- Makes variables local to a function. -/
def locals : Builtin := fun c => do
  if (← get).calls = 0 then fail "not in a function"
  for a in c.args do
    if (← running) then
      let (name, value) := splitSet a
      if name = "-" then rememberOptions
      else if !isName name then fail (name ++ ": bad variable name")
      else do
        remember name
        match value with
        | some value => assign name value
        | none => pure ()

/-- Takes variables or functions away. -/
def unset : Builtin := fun c => do
  withOptions [('v', false), ('f', false)] c.args fun given args => do
    for name in args do
      if (← running) then
        if given.getLast? == some 'f' then
          modify fun s => { s with functions := s.functions.filter (·.1 ≠ name) }
        else if !isName name then fail (name ++ ": bad variable name")
        else do
          match (← get).binding? name with
          | some v =>
            if v.fixed then fail (name ++ ": is read only") else modify (·.dropVariable name)
          | none => pure ()

/-! ### Arguments and options -/

/-- The options with their names, in the order in which they are listed. -/
def optionNames : List (String × Option Char) :=
  [("errexit", some 'e'), ("noglob", some 'f'), ("ignoreeof", some 'I'), ("interactive", some 'i'),
    ("monitor", some 'm'), ("noexec", some 'n'), ("stdin", some 's'), ("xtrace", some 'x'),
    ("verbose", some 'v'), ("vi", some 'V'), ("emacs", some 'E'), ("noclobber", some 'C'),
    ("allexport", some 'a'), ("notify", some 'b'), ("nounset", some 'u'), ("privileged", some 'p'),
    ("nolog", none), ("debug", none)]

/-- Turns an option on or off. -/
def turn (on : Bool) (letter : Char) : Act Unit := modify fun s =>
  let others := s.options.filter (· ≠ letter)
  { s with options := if on then letter :: others else others }

/-- Writes all options and whether they are on. -/
def sayOptions (on : Bool) : Act Unit := do
  let s ← get
  let isOn (o : String × Option Char) : Bool := (o.2.map s.has).getD false
  if on then sayLine "Current option settings"
  for o in optionNames do
    if on then
      let gap := String.ofList (List.replicate (16 - o.1.length) ' ')
      sayLine (o.1 ++ gap ++ (if isOn o then "on" else "off"))
    else sayLine ("set " ++ (if isOn o then "-" else "+") ++ "o " ++ o.1)

/-- Replaces the arguments. -/
def setArguments (args : List String) : Act Unit :=
  modify fun s => { s with args, optionIndex := 1, optionPlace := none }

/-- Turns options on or off by their letters; answers whether a name of an option is to follow. -/
def turnLetters (on : Bool) : List Char → Act Bool
  | [] => return false
  | 'o' :: _ => return true
  | c :: cs => do
    if optionNames.any (·.2 == some c) then do
      turn on c
      turnLetters on cs
    else do
      fail ("Illegal option -" ++ String.ofList [c])
      return false

/-- Sets options and arguments. -/
def setAll : List String → Act Unit
  | [] => pure ()
  | a :: rest =>
    match a.toList with
    | ['-', '-'] => setArguments rest
    | ['-'] => do
      turn false 'x'
      turn false 'v'
      if !rest.isEmpty then setArguments rest
    | c :: cs =>
      if (c == '-' || c == '+') && !cs.isEmpty then do
        let on := c == '-'
        if ← turnLetters on cs then
          match rest with
          | [] => sayOptions on
          | name :: rest =>
            match optionNames.find? (·.1 == name) with
            | some (_, letter) => do
              letter.forM (turn on)
              setAll rest
            | none => fail ("Illegal option " ++ String.ofList [c] ++ "o " ++ name)
        else if (← running) then setAll rest
      else setArguments (a :: rest)
    | [] => setArguments (a :: rest)

/-- Sets options and arguments, or writes all variables. -/
def setCommand : Builtin := fun c => do
  if c.args.isEmpty then sayVariables "" ((← get).vars.filter (·.value.isSome))
  else setAll c.args

/-- Takes arguments off the front. -/
def shift : Builtin := fun c => do
  withNumber (c.args.headD "1") fun n => do
    let s ← get
    if s.args.length < n then fail "can't shift that many"
    else setArguments (s.args.drop n)

/-! ### Options of scripts -/

/-- What was found in the search for an option: its letter, its argument, and a complaint. -/
structure Sought where
  letter : Char
  argument : Option String
  complaint : Option String := none
  index : Nat
  place : Option Nat := none

/-- Looks for the next option among arguments; `spec` lists the letters, those with a colon take an
argument, and a colon at its front keeps complaints away. None if there are no more options; then the index
is that of the first argument which is none. -/
def seek (spec : List Char) (args : List String) (index : Nat) (place : Option Nat) :
    Except Nat Sought :=
  let quiet := spec.head? == some ':'
  let letters := if quiet then spec.drop 1 else spec
  let current := match place with
    | some p => if index ≤ 1 then [] else ((args[index - 2]?.getD "").toList.drop p)
    | none => []
  let start : Except Nat (List Char × Nat) :=
    if !current.isEmpty then .ok (current, index)
    else
      match (args[index - 1]?.getD "").toList with
      | ['-', '-'] => .error (index + 1)
      | '-' :: c :: cs => .ok (c :: cs, index + 1)
      | _ => .error index
  match start with
  | .error i => .error i
  | .ok ([], i) => .error i
  | .ok (c :: cs, i) =>
    let text := String.ofList [c]
    let place := if cs.isEmpty then none else some ((args[i - 2]?.getD "").length - cs.length)
    match letters.dropWhile (· != c) with
    | [] =>
      if quiet then .ok ⟨'?', some text, none, i, place⟩
      else .ok ⟨'?', none, some ("Illegal option -" ++ text ++ "\n"), i, place⟩
    | _ :: ':' :: _ =>
      match cs, args[i - 1]? with
      | [], some a => .ok ⟨c, some a, none, i + 1, none⟩
      | [], none =>
        if quiet then .ok ⟨':', some text, none, i, none⟩
        else .ok ⟨'?', none, some ("No arg for -" ++ text ++ " option\n"), i, none⟩
      | cs, _ => .ok ⟨c, some (String.ofList cs), none, i, none⟩
    | _ => .ok ⟨c, some "", none, i, place⟩

/-- Takes the next option of the script. -/
def getopts : Builtin := fun c => do
  match c.args with
  | spec :: name :: given => do
    let s ← get
    let args := if given.isEmpty then s.args else given
    let fresh := args.length + 1 < s.optionIndex
    let found := seek spec.toList args (if fresh then 1 else s.optionIndex)
      (if fresh then none else s.optionPlace)
    let index := match found with
      | .ok o => o.index
      | .error i => i
    match found with
    | .ok o => do
      o.complaint.forM tell
      match o.argument with
      | some a => assign "OPTARG" a
      | none => modify (·.dropVariable "OPTARG")
    | .error _ => pure ()
    assign "OPTIND" (toString index)
    if !isName name then fail (name ++ ": bad variable name")
    else
      match found with
      | .ok o => do
        assign name (String.ofList [o.letter])
        modify fun t => { t with optionIndex := index, optionPlace := o.place }
      | .error _ => do
        assign name "?"
        modify fun t => { t with status := 1, optionIndex := index, optionPlace := none }
  | _ => fail "Usage: getopts optstring var [arg...]"

/-! ### Lines -/

/-- The characters of a line with whether they were quoted by a backslash, and whether its last line end
was quoted as well. -/
def lineGlyphs : List Char → List Glyph × Bool
  | [] => ([], false)
  | ['\\'] => ([], true)
  | '\\' :: c :: cs =>
    let (gs, open?) := lineGlyphs cs
    ((c, true) :: gs, open?)
  | c :: cs =>
    let (gs, open?) := lineGlyphs cs
    ((c, false) :: gs, open?)

/-- Reads a line, and the next one as well if a backslash joins them; answers its characters and whether
there was a line end. -/
def readGlyphs (raw : Bool) : Nat → Act (List Glyph × Bool)
  | 0 => return ([], false)
  | n + 1 => do
    match ← readLine 0 with
    | none => return ([], false)
    | some (line, ended) => do
      let cs := line.toList.filter (· != '\x00')
      if raw then return (cs.map (·, false), ended)
      else do
        let (gs, open?) := lineGlyphs cs
        if open? && ended then do
          let (more, ended) ← readGlyphs raw n
          return (gs ++ more, ended)
        else return (gs, ended)

/-- How a line is cut: the blanks and the other characters that separate. -/
structure Cutting where
  ifs : List Char

namespace Cutting

/-- Whether a character separates. -/
def separates (k : Cutting) (g : Glyph) : Bool := !g.2 && k.ifs.contains g.1

/-- Whether a character is a separating blank. -/
def isBlank (k : Cutting) (g : Glyph) : Bool :=
  k.separates g && (g.1 == ' ' || g.1 == '\t' || g.1 == '\n')

/-- What follows a separator at the front. -/
def afterSeparator (k : Cutting) (gs : List Glyph) : List Glyph :=
  let gs := gs.dropWhile k.isBlank
  match gs with
  | g :: rest => if k.separates g then rest.dropWhile k.isBlank else gs
  | [] => []

/-- The last text: all that is left without blanks at its end, or a single text without its separator. -/
def lastText (k : Cutting) (gs : List Glyph) : List Glyph :=
  let text := gs.takeWhile fun g => !k.separates g
  if (k.afterSeparator (gs.drop text.length)).isEmpty then text
  else (gs.reverse.dropWhile k.isBlank).reverse

/-- The texts for some variables, the last of which takes all that is left. -/
def texts (k : Cutting) : Nat → List Glyph → List (List Glyph)
  | 0, _ => []
  | 1, gs => [k.lastText gs]
  | n + 1, gs =>
    let text := gs.takeWhile fun g => !k.separates g
    text :: k.texts n (k.afterSeparator (gs.drop text.length))

end Cutting

/-- Reads a line into variables. -/
def read : Builtin := fun c => do
  withOptions [('p', true), ('r', false)] c.args fun given names => do
    if names.isEmpty then fail "arg count"
    else do
      let s ← get
      let (gs, ended) ← readGlyphs (given.contains 'r') 1000
      let k : Cutting := ⟨s.separators.toList⟩
      let texts := k.texts names.length (gs.dropWhile k.isBlank)
      for (name, text) in names.zip texts do
        if (← running) then
          if !isName name then fail (name ++ ": bad variable name")
          else assign name (String.ofList (text.map (·.1)))
      if (← running) && !ended then setStatus 1

end ServerTrials.Client.Shell.Builtin
