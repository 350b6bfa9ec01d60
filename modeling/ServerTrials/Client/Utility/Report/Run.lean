import ServerTrials.Client.Utility.Report.Number
import ServerTrials.Client.Utility.Report.Reader

/-!
The report writer at work.

Records are read one after the other, and each is given to the rules of the script. A value is a number, a
text, or a text that looks like a number and counts as both.
-/

namespace ServerTrials.Client.Utility.Report

/-! ### Values -/

/-- A value. -/
inductive Value where
  | unset
  | number (x : Binary64)
  | text (s : String)
  /-- A text from outside that looks like a number. -/
  | both (s : String) (x : Binary64)
  deriving DecidableEq, Repr

/-- The number at the front of a text, and what follows it. -/
def leadingReal? (s : String) : Option (Binary64 × List Char) :=
  let cs := s.toList.dropWhile isGap
  let (sign, rest) := match cs with
    | '-' :: r => (true, r)
    | '+' :: r => (false, r)
    | r => (false, r)
  let value := fun c : Char => if c.isDigit then c.toNat - '0'.toNat else c.toLower.toNat - 'a'.toNat + 10
  let isHex := fun c : Char => c.isDigit || ('a' ≤ c.toLower && c.toLower ≤ 'f')
  match rest with
  | '0' :: x :: d :: _ =>
    if (x == 'x' || x == 'X') && isHex d then
      let ds := (rest.drop 2).takeWhile isHex
      let n := ds.foldl (fun n c => n * 16 + value c) 0
      some (Real.nearest sign n 0, rest.drop (ds.length + 2))
    else (Real.takeDecimal cs).map fun r => (Real.nearest r.1 r.2.1 r.2.2.1, r.2.2.2)
  | _ => (Real.takeDecimal cs).map fun r => (Real.nearest r.1 r.2.1 r.2.2.1, r.2.2.2)

namespace Value

/-- A text from outside. -/
def ofText (s : String) : Value :=
  match leadingReal? s with
  | some (x, rest) => if rest.all isGap then .both s x else .text s
  | none => .text s

/-- An integer. -/
def ofInt (n : Int) : Value := .number (Binary64.ofInt n)

/-- A truth value. -/
def ofBool (b : Bool) : Value := ofInt (if b then 1 else 0)

/-- The value as a number. -/
def toReal : Value → Binary64
  | .unset => Binary64.zero false
  | .number x | .both _ x => x
  | .text s => ((leadingReal? s).map (·.1.unsignedZero)).getD (Binary64.zero false)

/-- The integer part of the value. -/
def toInt (v : Value) : Int := v.toReal.whole

/-- Whether the value holds. -/
def truth : Value → Bool
  | .unset => false
  | .number x | .both _ x => !x.isZero
  | .text s => s ≠ ""

/-- Whether the value counts as a number in comparisons. -/
def isNumeric : Value → Bool
  | .text _ => false
  | _ => true

end Value

/-- A number as a text: an integer in full, any other one by a format. -/
def realText (format : String) (x : Binary64) : String :=
  let n := x.whole
  if x.isWhole && -halfBound ≤ n && n ≤ wordBound then toString (min n (wordBound - 1))
  else
    let d := (readDirective (format.toList.drop 1) []).1
    if d.letter == 'd' || d.letter == 'i' then d.decimal n else d.real x

/-! ### The state -/

/-- A name of a function: its value, and the array it stands for. -/
structure Local where
  name : String
  value : Value
  array : String

/-- What the report writer knows. -/
structure Machine where
  script : Script
  lineCount : Nat
  globals : List (String × Value) := []
  arrays : List (String × List (String × Value)) := []
  /-- The names of the function at work. -/
  locals : List Local := []
  record : String := ""
  fields : List String := []
  /-- The operands that are still to be read. -/
  operands : List String := []
  /-- What is left of the current input. -/
  input : Option (List Char) := none
  /-- Whether an input was read at all. -/
  began : Bool := false
  /-- The files that were written to. -/
  opened : List String := []
  /-- The commands that are given something, the last one first. -/
  commands : List (String × String) := []
  /-- What was written since the last command was begun: it comes out after that. -/
  held : Option String := none
  /-- The files that are read line by line, with what is left of them. -/
  readers : List (String × List Char) := []
  /-- The ranges of records that have begun. -/
  ranges : List Nat := []
  namesMade : Nat := 0
  status : Nat := 0

/-- What takes a statement out of its turn. -/
inductive Jump where
  | leave
  | again
  | next
  | exit
  | answer (v : Value)

/-- Runs a part of a script. -/
abbrev Running := ExceptT Jump (StateT Machine Work)

/-- What expressions and statements use for their own parts. -/
structure Means where
  eval : Expr → Running Value
  run : List Statement → Running Unit

/-- The text of a variable of the language. -/
def Machine.setting (k : Machine) (name : String) : String :=
  match ((k.globals.find? (·.1 == name)).map (·.2)).getD .unset with
  | .text s | .both s _ => s
  | .number x => realText "%.6g" x
  | .unset => ""

/-- The text of a value. -/
def Machine.text (k : Machine) : Value → String
  | .unset => ""
  | .number x => realText (k.setting "CONVFMT") x
  | .text s | .both s _ => s

/-- The text of a value. -/
def textOf (v : Value) : Running String := do return (← get).text v

/-- Ends with a complaint about the record at hand. -/
def runFail {α : Type} (reason : String) : Running α := do
  let k ← get
  fail ("run time error: " ++ reason ++ "\n\tFILENAME=\"" ++ k.setting "FILENAME" ++ "\" FNR="
    ++ (if k.setting "FNR" = "" then "0" else k.setting "FNR") ++ " NR="
    ++ (if k.setting "NR" = "" then "0" else k.setting "NR")) 2

/-! ### Fields -/

/-- The parts of a text between the matches of an expression. -/
def splitAtMatches (r : Regex) (s : String) : List String :=
  let cs := s.toList
  let ms := (r.all {} cs).filter fun m => m.start < m.stop
  let starts := 0 :: ms.map (·.stop)
  let stops := ms.map (·.start) ++ [cs.length]
  (starts.zip stops).map fun p => String.ofList ((cs.drop p.1).take (p.2 - p.1))

/-- The parts of a text between separators. -/
def splitBySeparator (separator s : String) : Running (List String) := do
  if s = "" then return []
  match separator.toList with
  | [] => return s.toList.map fun c => String.ofList [c]
  | [' '] =>
    return (s.toList.splitBy fun a b => isGap a == isGap b).filterMap fun g =>
      if (g.head?.map isGap).getD true then none else some (String.ofList g)
  | [c] => return s.splitOn (String.ofList [c])
  | _ =>
    match regexOf separator with
    | .ok r => return splitAtMatches r s
    | .error e => runFail e

/-- Sets the record. -/
def setRecord (s : String) : Running Unit := do
  let fields ← splitBySeparator ((← get).setting "FS") s
  modify ({ · with record := s, fields })

/-- Makes the record anew from its fields. -/
def joinFields : Running Unit :=
  modify fun k => { k with record := (k.setting "OFS").intercalate k.fields }

/-- A list with something at a place, and empty texts before it if it was shorter. -/
def placeAt (s : String) : Nat → List String → List String
  | 0, [] => [s]
  | 0, _ :: ts => s :: ts
  | n + 1, [] => "" :: placeAt s n []
  | n + 1, t :: ts => t :: placeAt s n ts

/-- The number of a field. -/
def fieldNumber (v : Value) : Running Nat := do
  let n := v.toInt
  if n < 0 then runFail ("negative field index $" ++ toString n)
  return n.toNat

/-! ### Variables -/

/-- The array that a name stands for. -/
def arrayOf (name : String) : Running String := do
  match (← get).locals.find? (·.name == name) with
  | some l => return l.array
  | none => return name

/-- The value of a variable. -/
def named (name : String) : Running Value := do
  let k ← get
  match k.locals.find? (·.name == name) with
  | some l => return l.value
  | none =>
    if name = "NF" then return Value.ofInt k.fields.length
    else return ((k.globals.find? (·.1 == name)).map (·.2)).getD .unset

/-- The list with a value for a name. -/
def replaced (name : String) (v : Value) (vs : List (String × Value)) : List (String × Value) :=
  (name, v) :: vs.filter (·.1 != name)

/-- Sets a variable. -/
def setVariable (name : String) (v : Value) : Running Unit := do
  let k ← get
  if k.locals.any (·.name == name) then
    set { k with locals := k.locals.map fun (l : Local) => if l.name = name then { l with value := v } else l }
  else if name = "NF" then do
    let n := v.toInt.toNat
    set { k with fields := k.fields.take n ++ List.replicate (n - k.fields.length) "" }
    joinFields
  else set { k with globals := replaced name v k.globals }

/-- The elements of an array, the one used last first. -/
def elements (array : String) : Running (List (String × Value)) := do
  return (((← get).arrays.find? (·.1 == array)).map (·.2)).getD []

/-- Sets the elements of an array. -/
def setElements (array : String) (es : List (String × Value)) : Running Unit :=
  modify fun k => { k with arrays := (array, es) :: k.arrays.filter (·.1 != array) }

/-- The bucket in which a key is kept. -/
def bucket (key : String) : Nat :=
  (key.toList.foldl (fun h c => (h ^^^ c.toNat) * 16777619 % 4294967296) 2166136261) % 64

/-- The keys of an array by their buckets. -/
def keysOf (array : String) : Running (List String) := do
  return ((← elements array).map (·.1)).mergeSort fun a b => bucket a ≤ bucket b

/-- The key for values in brackets. -/
def keyOf (vs : List Value) : Running String := do
  let k ← get
  return (k.setting "SUBSEP").intercalate (vs.map k.text)

/-- The value of a place. -/
def valueAt (m : Means) (target : Expr) : Running Value := do
  match target with
  | .name name => named name
  | .field e => do
    let n ← fieldNumber (← m.eval e)
    let k ← get
    if n = 0 then return Value.ofText k.record
    match k.fields[n - 1]? with
    | some s => return Value.ofText s
    | none => return .unset
  | .element name index => do
    let array ← arrayOf name
    let key ← keyOf (← index.mapM m.eval)
    let es ← elements array
    let v := ((es.find? (·.1 == key)).map (·.2)).getD .unset
    setElements array (replaced key v es)
    return v
  | e => m.eval e

/-- Sets a place. -/
def setAt (m : Means) (target : Expr) (v : Value) : Running Unit := do
  match target with
  | .name name => setVariable name v
  | .field e => do
    let n ← fieldNumber (← m.eval e)
    let text ← textOf v
    if n = 0 then setRecord text
    else do
      modify fun k => { k with fields := placeAt text (n - 1) k.fields }
      joinFields
  | .element name index => do
    let array ← arrayOf name
    let key ← keyOf (← index.mapM m.eval)
    setElements array (replaced key v (← elements array))
  | _ => pure ()

/-! ### Records -/

/-- What stands before the first empty line, and what follows it. -/
def cutAtEmptyLine : List Char → List Char × List Char
  | [] => ([], [])
  | '\n' :: '\n' :: rest => ([], rest)
  | c :: rest =>
    let (first, left) := cutAtEmptyLine rest
    (c :: first, left)

/-- The first record of an input, and what follows it. -/
def takeRecord (separator : String) (input : List Char) : Running (Option (String × List Char)) := do
  if input.isEmpty then return none
  match separator.toList with
  | [c] =>
    let first := input.takeWhile (· != c)
    return some (String.ofList first, input.drop (first.length + 1))
  | [] =>
    let input := input.dropWhile (· == '\n')
    if input.isEmpty then return none
    let (first, left) := cutAtEmptyLine input
    let left := left.dropWhile (· == '\n')
    return some (if left.isEmpty then dropLineEnds (String.ofList first) else String.ofList first, left)
  | _ =>
    match regexOf separator with
    | .error e => runFail e
    | .ok r =>
      match (r.all {} input).find? fun p => p.start < p.stop with
      | some p => return some (String.ofList (input.take p.start), input.drop p.stop)
      | none => return some (dropLineEnds (String.ofList input), [])

/-- The value of a variable that is set from outside. -/
def givenVariable (s : String) : String × Value :=
  let name := s.toList.takeWhile (· != '=')
  (String.ofList name, Value.ofText (escapedText (String.ofList (s.toList.drop (name.length + 1)))).1)

/-- Opens the next input; false if there is none. -/
def openNext : Nat → Running Bool
  | 0 => return false
  | n + 1 => do
    let k ← get
    match k.operands with
    | [] =>
      if k.began then return false
      else openPath "-"
    | a :: rest => do
      set { k with operands := rest }
      let name := a.toList.takeWhile fun c => beginsName c || c.isDigit
      if a = "" then openNext n
      else if (name.head?.map beginsName).getD false && (a.toList.drop name.length).head? == some '=' then do
        let (name, v) := givenVariable a
        setVariable name v
        openNext n
      else openPath a
where
  /-- Opens an input. -/
  openPath (path : String) : Running Bool := do
    match ← contentOf path with
    | .ok text => do
      modify ({ · with input := some text.toList, began := true })
      setVariable "FILENAME" (.text path)
      setVariable "FNR" (Value.ofInt 0)
      return true
    | .error "Is a directory" => fail "read error (Is a directory)" 2
    | .error e => fail ("cannot open \"" ++ path ++ "\" (" ++ e ++ ")") 2

/-- The next record of all inputs. -/
def nextRecord : Nat → Running (Option String)
  | 0 => return none
  | n + 1 => do
    let k ← get
    match k.input with
    | none => if ← openNext (k.operands.length + 1) then nextRecord n else return none
    | some text =>
      match ← takeRecord (k.setting "RS") text with
      | some (record, rest) => do
        set { k with input := some rest }
        let count (name : String) : Running Unit := do
          setVariable name (Value.ofInt ((← named name).toInt + 1))
        count "NR"
        count "FNR"
        return some record
      | none => do
        set { k with input := none }
        nextRecord n

/-- How many inputs there may be. -/
def inputLimit : Nat := 10000

/-! ### Texts -/

/-- Writes a directive for a value. -/
def formatted (d : Directive) (v : Value) : Running String := do
  let k ← get
  let clamped : Int := max (-halfBound) (min v.toInt (wordBound - 1))
  match d.letter with
  | 'd' | 'i' => return d.decimal clamped
  | 'o' => return d.inBase 8 (clamped % wordBound).toNat
  | 'x' | 'X' => return d.inBase 16 (clamped % wordBound).toNat
  | 'u' => return d.decimal (clamped % wordBound)
  | 'c' =>
    match v with
    | .number x => return d.pad (String.ofList [Char.ofNat (x.whole.toNat % 256)])
    | v => return d.pad (String.ofList [(k.text v).toList.headD '\x00'])
  | 's' =>
    let s := k.text v
    return d.pad (match d.precision with
      | some n => String.ofList (s.toList.take n)
      | none => s)
  | _ => return d.real v.toReal

/-- A format with its values. -/
def format (whole : String) : Nat → List Char → List Value → Running String
  | 0, _, _ => return ""
  | _, [], _ => return ""
  | n + 1, '%' :: '%' :: rest, vs => do return "%" ++ (← format whole n rest vs)
  | n + 1, '%' :: rest, vs => do
    let texts ← vs.mapM textOf
    let (d, rest, left) := readDirective rest texts
    let vs := vs.drop (texts.length - left.length)
    match vs with
    | [] => runFail ("not enough arguments passed to " ++ whole)
    | v :: vs =>
      if "dioxXucseEfFgG".toList.contains d.letter then
        return (← formatted d v) ++ (← format whole n rest vs)
      else runFail ("bad conversion in " ++ whole)
  | n + 1, c :: rest, vs => do return String.ofList [c] ++ (← format whole n rest vs)

/-- A format and its values as a text; `name` is what was called. -/
def formatAll (name : String) (vs : List Value) : Running String := do
  let f ← textOf (vs.headD .unset)
  format (name ++ "(\"" ++ f ++ "\")") (f.length + 1) f.toList (vs.drop 1)

/-- What stands in place of a match: `&` is the match itself. -/
def replacement (taken : List Char) : List Char → List Char
  | '\\' :: '&' :: rest => '&' :: replacement taken rest
  | '\\' :: '\\' :: '&' :: rest => '\\' :: (taken ++ replacement taken rest)
  | '&' :: rest => taken ++ replacement taken rest
  | c :: rest => c :: replacement taken rest
  | [] => []

/-- The text with its matches replaced. -/
def replaceMatches (cs new : List Char) (ms : List Regex.Match) : List Char :=
  let parts := ms.foldl (fun (acc : List Char × Nat) m =>
    (acc.1 ++ (cs.drop acc.2).take (m.start - acc.2) ++ replacement (m.taken cs 0) new, m.stop)) ([], 0)
  parts.1 ++ cs.drop parts.2

/-- A part of a text from a position on, of some length or up to the end. -/
def substring (s : String) (start : Int) (size : Option Int) : String :=
  let cs := s.toList
  let first := max start 1
  match size with
  | none => String.ofList (cs.drop (first.toNat - 1))
  | some n =>
    let n := if n ≤ 0 then 0 else if start < 1 then n - start else n
    String.ofList ((cs.drop (first.toNat - 1)).take n.toNat)

/-- Where a text stands in another one, from one on, or zero. -/
def positionOf (s part : List Char) : Nat :=
  ((List.range (s.length + 1)).find? fun n => part.isPrefixOf (s.drop n)).map (· + 1) |>.getD 0

/-! ### Expressions -/

/-- The regular expression that an expression stands for. -/
def patternOf (m : Means) (e : Expr) : Running Regex := do
  match e with
  | .regex r => return r
  | e => do
    match regexOf (← textOf (← m.eval e)), e with
    | .ok r, _ => return r
    | .error fault, .text _ => fail ("line 1: " ++ fault) 2
    | .error fault, _ => runFail fault

/-- The value of a reckoning. -/
def reckoned (op : Arith) (a b : Value) : Running Value := do
  let (x, y) := (a.toReal, b.toReal)
  let r : Option Binary64 := match op with
    | .add => x.add? y
    | .sub => x.sub? y
    | .mul => (x.mul? y).map (·.unsignedZero)
    | .div => (x.div? y).map (·.unsignedZero)
    | .rem => x.rem? y
    | .pow => x.pow? y
  match r with
  | some z => return .number z
  | none =>
    let down := x.negative != y.negative
    return .text (if x.isZero || op == .rem then (if down then "nan" else "-nan")
      else if down then "-inf" else "inf")

/-- The truth of a comparison. -/
def compared? (op : Comparison) (o : Ordering) : Bool :=
  match op with
  | .less => o == .lt
  | .atMost => o != .gt
  | .equal => o == .eq
  | .unequal => o != .eq
  | .greater => o == .gt
  | .atLeast => o != .lt

/-- The order of two values: of numbers if both are, of texts otherwise. -/
def orderOf (a b : Value) : Running Ordering := do
  if a.isNumeric && b.isNumeric then return a.toReal.order b.toReal
  else
    let k ← get
    return compare ((k.text a).toList.map Char.toNat) ((k.text b).toList.map Char.toNat)

/-- Replaces matches in a place; answers how many. -/
def replaceAt (m : Means) (all : Bool) (args : List Expr) : Running Value := do
  let r ← patternOf m (args.headD (.text ""))
  let new ← textOf (← m.eval (args[1]?.getD (.text "")))
  let target := match args[2]?.getD (.field (.number (Binary64.zero false))) with
    | .group [e] => e
    | e => e
  let cs := (← textOf (← valueAt m target)).toList
  let ms := if all then r.all {} cs else (r.find {} cs 0).toList
  if !ms.isEmpty then setAt m target (.text (String.ofList (replaceMatches cs new.toList ms)))
  return Value.ofInt ms.length

/-- Writes a text, or keeps it until the commands that have begun are done. -/
def say (text : String) : Running Unit := do
  match (← get).held with
  | none => put text
  | some before => modify ({ · with held := some (before ++ text) })

/-- Writes what was kept; `more` says whether texts are kept from now on. -/
def sayHeld (more : Bool) : Running Unit := do
  put ((← get).held.getD "")
  modify ({ · with held := if more then some "" else none })

/-- Writes what commands were given, and forgets them. -/
def finishCommands (which : String × String → Bool) : Running Unit := do
  let k ← get
  for (command, text) in k.commands.filter which do
    order command text
  set { k with commands := k.commands.filter fun c => !which c }

/-- The value of a function of the language. -/
def builtinValue (m : Means) (name : String) (args : List Expr) : Running Value := do
  let value (n : Nat) : Running Value := m.eval (args[n]?.getD (.text ""))
  let text (n : Nat) : Running String := do textOf (← value n)
  match name, args with
  | "length", [] => return Value.ofInt (← get).record.length
  | "length", [.group [.name a]] | "length", [.name a] => do
    let array ← arrayOf a
    let k ← get
    if k.arrays.any (·.1 == array) then return Value.ofInt (← elements array).length
    else return Value.ofInt (k.text (← named a)).length
  | "length", _ => return Value.ofInt (← text 0).length
  | "substr", _ => do
    let s ← text 0
    let start := (← value 1).toInt
    let size ← if args.length < 3 then pure none else do pure (some (← value 2).toInt)
    return .text (substring s start size)
  | "index", _ => return Value.ofInt (positionOf (← text 0).toList (← text 1).toList)
  | "split", _ => do
    let s ← text 0
    let parts ← match args.drop 2 with
      | .regex r :: _ => pure (if s = "" then [] else splitAtMatches r s)
      | e :: _ => do splitBySeparator (← textOf (← m.eval e)) s
      | [] => do splitBySeparator ((← get).setting "FS") s
    match args.drop 1 with
    | .name a :: _ =>
      setElements (← arrayOf a)
        (parts.zipIdx.map fun p => (toString (p.2 + 1), Value.ofText p.1)).reverse
    | _ => pure ()
    return Value.ofInt parts.length
  | "sub", _ => replaceAt m false args
  | "gsub", _ => replaceAt m true args
  | "match", _ => do
    let s ← text 0
    let r ← patternOf m (args[1]?.getD (.text ""))
    let (start, size) : Int × Int := match r.find {} s.toList 0 with
      | some p => (p.start + 1, (p.stop - p.start : Nat))
      | none => (0, -1)
    setVariable "RSTART" (Value.ofInt start)
    setVariable "RLENGTH" (Value.ofInt size)
    return Value.ofInt start
  | "sprintf", _ => do return .text (← formatAll "sprintf" (← args.mapM m.eval))
  | "int", _ => return Value.ofInt (← value 0).toInt
  | "sqrt", _ => do
    match (← value 0).toReal.sqrt? with
    | some x => return .number x
    | none => return .text "-nan"
  | "tolower", _ => return .text (String.ofList ((← text 0).toList.map Char.toLower))
  | "toupper", _ => return .text (String.ofList ((← text 0).toList.map Char.toUpper))
  | "close", _ => do
    let name ← text 0
    let k ← get
    let known := k.commands.any (·.1 == name) || k.opened.contains name || k.readers.any (·.1 == name)
    finishCommands (·.1 == name)
    modify fun k => { k with
      opened := k.opened.filter (· != name), readers := k.readers.filter (·.1 != name) }
    return Value.ofInt (if known then 0 else -1)
  | "system", _ => do
    let command ← text 0
    sayHeld (← get).held.isSome
    order command ""
    return Value.ofInt 0
  | "fflush", _ => do
    sayHeld (← get).held.isSome
    return Value.ofInt 0
  | _, _ => do
    discard (args.mapM m.eval)
    return Value.ofInt 0

/-- Calls a function of the script. -/
def called (m : Means) (name : String) (args : List Expr) : Running Value := do
  match (← get).script.functions.find? (·.name == name) with
  | none => fail ("line " ++ toString ((← get).lineCount + 1) ++ ": function " ++ name ++ " never defined") 2
  | some f => do
    let mut given := []
    for a in args do
      match a with
      | .name v => do
        let array ← arrayOf v
        given := given ++ [(← named v, array)]
      | e => do given := given ++ [(← m.eval e, "")]
    let k ← get
    let fresh := f.parameters.zipIdx.map fun p =>
      match given[p.2]? with
      | some (v, "") => { name := p.1, value := v, array := p.1 ++ "#" ++ toString (k.namesMade + p.2) : Local }
      | some (v, array) => { name := p.1, value := v, array }
      | none => { name := p.1, value := .unset, array := p.1 ++ "#" ++ toString (k.namesMade + p.2) }
    set { k with locals := fresh, namesMade := k.namesMade + f.parameters.length }
    let v ← tryCatch (do
        m.run f.body
        pure Value.unset) fun j =>
      match j with
      | .answer v => pure v
      | j => throw j
    modify fun now => { now with locals := k.locals }
    return v

/-- The value of `getline`. -/
def fetched (m : Means) (target path : Option Expr) : Running Value := do
  match path with
  | none =>
    match ← nextRecord inputLimit with
    | none => return Value.ofInt 0
    | some r => do
      match target with
      | none => setRecord r
      | some t => setAt m t (Value.ofText r)
      return Value.ofInt 1
  | some e => do
    let path ← textOf (← m.eval e)
    let text ← match (← get).readers.find? (·.1 == path) with
      | some (_, text) => pure (Except.ok text)
      | none => do pure ((← contentOf path).map String.toList)
    match text with
    | .error _ => return Value.ofInt (-1)
    | .ok text => do
      let found ← takeRecord ((← get).setting "RS") text
      let rest := (found.map (·.2)).getD []
      modify fun k => { k with readers := (path, rest) :: k.readers.filter (·.1 != path) }
      match found with
      | none => return Value.ofInt 0
      | some (r, _) => do
        match target with
        | none => setRecord r
        | some t => setAt m t (Value.ofText r)
        return Value.ofInt 1

/-- The value of an expression. -/
def evalWith (m : Means) (e : Expr) : Running Value := do
  match e with
  | .number x => return .number x
  | .text s => return .text s
  | .regex r => return Value.ofBool (r.find {} (← get).record.toList 0).isSome
  | .name _ | .element .. | .field _ => valueAt m e
  | .assign target value => do
    let v ← m.eval value
    setAt m target v
    return v
  | .update op target value => do
    let b ← m.eval value
    let v ← reckoned op (← valueAt m target) b
    setAt m target v
    return v
  | .count target up new => do
    let old := Value.number (← valueAt m target).toReal
    let v ← reckoned (if up then .add else .sub) old (Value.ofInt 1)
    setAt m target v
    return if new then v else old
  | .choice c a b => do if (← m.eval c).truth then m.eval a else m.eval b
  | .or a b => do
    if (← m.eval a).truth then return Value.ofBool true
    else return Value.ofBool (← m.eval b).truth
  | .and a b => do
    if (← m.eval a).truth then return Value.ofBool (← m.eval b).truth
    else return Value.ofBool false
  | .not e => return Value.ofBool !(← m.eval e).truth
  | .isIn index name => do
    let key ← keyOf (← index.mapM m.eval)
    return Value.ofBool ((← elements (← arrayOf name)).any (·.1 == key))
  | .isMatch e pattern negated => do
    let s ← textOf (← m.eval e)
    let r ← patternOf m pattern
    return Value.ofBool ((r.find {} s.toList 0).isSome != negated)
  | .comparison op a b => do
    let x ← m.eval a
    let y ← m.eval b
    return Value.ofBool (compared? op (← orderOf x y))
  | .join a b => do
    let s ← textOf (← m.eval a)
    return .text (s ++ (← textOf (← m.eval b)))
  | .arith op a b => do
    let x ← m.eval a
    reckoned op x (← m.eval b)
  | .negate e => return .number (← m.eval e).toReal.negated
  | .plus e => return .number (← m.eval e).toReal
  | .builtin name args => builtinValue m name args
  | .call name args => called m name args
  | .fetch target path => fetched m target path
  | .group [e] => m.eval e
  | .group es => do return .text (← keyOf (← es.mapM m.eval))

/-! ### Statements -/

/-- Writes a text to where it goes. -/
def writeTo (m : Means) (outlet : Option Outlet) (text : String) : Running Unit := do
  match outlet with
  | none => say text
  | some (.command e) => do
    let command ← textOf (← m.eval e)
    let k ← get
    if k.commands.any (·.1 == command) then
      set { k with commands := k.commands.map fun (c : String × String) => if c.1 = command then (command, c.2 ++ text) else c }
    else
      sayHeld true
      modify fun k => { k with commands := (command, text) :: k.commands }
  | some (.replace e) => do toFile (← textOf (← m.eval e)) false
  | some (.append e) => do toFile (← textOf (← m.eval e)) true
where
  /-- Writes to a file. -/
  toFile (path : String) (keeps : Bool) : Running Unit := do
    if path = "-" || path = "/dev/stdout" || path = "/dev/fd/1" then say text
    else if path = "/dev/stderr" || path = "/dev/fd/2" then warn text
    else if path = "/dev/null" then pure ()
    else do
      let known := (← get).opened.contains path
      let old ← if known || keeps then contentOf path else pure (.ok "")
      match old with
      | .ok old => store path (old ++ text)
      | .error _ => store path text
      if !known then modify fun k => { k with opened := path :: k.opened }

/-- How many turns a loop may take. -/
def turnLimit : Nat := 1000000

/-- Runs the body of a loop; answers whether the loop goes on. -/
def turn (body : Running Unit) : Running Bool :=
  tryCatch (do
    body
    return true) fun j =>
    match j with
    | .leave => return false
    | .again => return true
    | j => throw j

/-- Runs a body as long as a question holds. -/
def repeatWhile (holds : Running Bool) (body : Running Unit) : Nat → Running Unit
  | 0 => throw .exit
  | n + 1 => do
    if ← holds then
      if ← turn body then repeatWhile holds body n

/-- Runs a statement. -/
def runStatement (m : Means) (s : Statement) : Running Unit := do
  match s with
  | .expr e => discard (m.eval e)
  | .print es outlet => do
    let k ← get
    let shown (v : Value) : String := match v with
      | .number x => realText (k.setting "OFMT") x
      | v => k.text v
    let vs ← es.mapM m.eval
    let k ← get
    let line := if es.isEmpty then k.record else (k.setting "OFS").intercalate (vs.map shown)
    writeTo m outlet (line ++ k.setting "ORS")
  | .printf es outlet => do
    writeTo m outlet (← formatAll "printf" (← es.mapM m.eval))
  | .choice c a b => do if (← m.eval c).truth then m.run a else m.run b
  | .loop c body => repeatWhile (do return (← m.eval c).truth) (m.run body) turnLimit
  | .loopAfter body c => do
    if ← turn (m.run body) then repeatWhile (do return (← m.eval c).truth) (m.run body) turnLimit
  | .loopFrom start c next body => do
    m.run start
    let question : Running Bool := match c with
      | some c => do return (← m.eval c).truth
      | none => return true
    let body : Running Unit := do
      if ← turn (m.run body) then m.run next else throw .leave
    repeatWhile question body turnLimit
  | .loopOver name a body => do
    let mut on := true
    for key in ← keysOf (← arrayOf a) do
      if on then
        setVariable name (Value.ofText key)
        on ← turn (m.run body)
  | .leave => throw .leave
  | .again => throw .again
  | .next => throw .next
  | .exit status => do
    match status with
    | some e => do
      let v ← m.eval e
      modify ({ · with status := (v.toInt % 256).toNat })
    | none => pure ()
    throw .exit
  | .answer v => do
    match v with
    | some e => do throw (.answer (← m.eval e))
    | none => throw (.answer .unset)
  | .delete a index => do
    let array ← arrayOf a
    if index.isEmpty then setElements array []
    else do
      let key ← keyOf (← index.mapM m.eval)
      setElements array ((← elements array).filter (·.1 != key))
  | .block body => m.run body

/-- The means to run parts that stand at most so deep in each other. -/
def means : Nat → Means
  | 0 => { eval := fun _ => throw .exit, run := fun _ => throw .exit }
  | n + 1 =>
    { eval := fun e => evalWith (means n) e, run := fun ss => ss.forM fun s => runStatement (means n) s }

/-- How deep parts of a script may stand in each other. -/
def deepest : Nat := 4000

/-! ### The program -/

/-- Whether a rule is for the record. -/
def isFor (m : Means) (t : Trigger) : Running Bool := do
  match t with
  | .always => return true
  | .when e => return (← m.eval e).truth
  | .begin | .finish => return false
  | .between n first last => do
    let begun := (← get).ranges.contains n
    if begun || (← m.eval first).truth then
      let ends := (← m.eval last).truth
      modify fun k => { k with ranges := if ends then k.ranges.filter (· != n) else n :: k.ranges }
      return true
    else return false

/-- Runs the statements of a rule. -/
def runRule (m : Means) (r : Rule) : Running Unit :=
  match r.body with
  | some body => m.run body
  | none => m.run [.print [] none]

/-- Gives all records to the rules. -/
def readRecords (m : Means) (rules : List Rule) : Nat → Running Unit
  | 0 => return ()
  | n + 1 => do
    match ← nextRecord inputLimit with
    | none => return ()
    | some record => do
      setRecord record
      tryCatch (rules.forM fun r => do if ← isFor m r.trigger then runRule m r) fun j =>
        match j with
        | .next => pure ()
        | j => throw j
      readRecords m rules n

/-- How many records are read. -/
def recordLimit : Nat := 1000000

/-- Runs a script from its beginning to its end. -/
def runScript (m : Means) : Running Unit := do
  let rules := (← get).script.rules
  let start := rules.filter fun r => r.trigger matches .begin
  let finish := rules.filter fun r => r.trigger matches .finish
  let rest := rules.filter fun r => !(r.trigger matches .begin | .finish)
  let untilExit (x : Running Unit) : Running Unit := tryCatch x fun _ => pure ()
  untilExit do
    start.forM (runRule m)
    if !(rest.isEmpty && finish.isEmpty) then readRecords m rest recordLimit
  untilExit (finish.forM (runRule m))
  finishCommands fun _ => true
  sayHeld false

/-- The variables of the language as they begin. -/
def firstVariables : List (String × Value) :=
  [("FS", .text " "), ("OFS", .text " "), ("ORS", .text "\n"), ("RS", .text "\n"), ("SUBSEP", .text "\x1c"),
    ("CONVFMT", .text "%.6g"), ("OFMT", .text "%.6g"), ("NR", Value.ofInt 0), ("FNR", Value.ofInt 0)]

/-- An option: its letter and what stands right after that. -/
def asOption? (a : String) : Option (Char × String) :=
  match a.toList with
  | '-' :: c :: v => some (c, String.ofList v)
  | _ => none

/-- The options at the front of arguments, and what follows them. -/
def readOptions : List String → Except String (List Given × List String)
  | [] => .ok ([], [])
  | a :: rest =>
    if a = "--" then .ok ([], rest)
    else
      match asOption? a with
      | none => .ok ([], a :: rest)
      | some (c, v) => do
        if !"Fvf".toList.contains c then .error ("not an option: " ++ a)
        else if v ≠ "" then
          let (given, operands) ← readOptions rest
          .ok ((c, v) :: given, operands)
        else
          match rest with
          | [] => .error ("option -" ++ String.ofList [c] ++ " lacks argument")
          | v :: rest => do
            let (given, operands) ← readOptions rest
            .ok ((c, v) :: given, operands)

/-- Writes a report about the records of its inputs. -/
def program : Program := do
  let r ← read
  let (given, operands) ← match readOptions r.args with
    | .ok o => pure o
    | .error e => fail e 2
  let (source, operands) ← match given.filter (·.1 == 'f'), operands with
    | [], source :: operands => pure (source, operands)
    | [], [] => do
      put "Usage: mawk [Options] [Program] [file ...]\n"
      stop
    | files, operands => do
      let texts ← files.mapM fun g => do
        match ← contentOf g.2 with
        | .ok text => pure text
        | .error e => fail ("cannot open \"" ++ g.2 ++ "\" (" ++ e ++ ")") 2
      pure ("\n".intercalate texts, operands)
  let lineCount := (source.splitOn "\n").length
  match Script.ofString source lineCount with
  | .error e => fail e 2
  | .ok script => do
    let ownVariables := given.filterMap fun g =>
      if g.1 == 'v' then some (givenVariable g.2)
      else if g.1 == 'F' then some ("FS", Value.text (escapedText g.2).1)
      else none
    let arguments := (r.name :: operands).zipIdx.map fun p => (toString p.2, Value.ofText p.1)
    let machine : Machine :=
      { script, operands, lineCount
        globals := ("ARGC", Value.ofInt (operands.length + 1)) ::
          ownVariables.foldl (fun vs v => replaced v.1 v.2 vs) firstVariables
        arrays := [("ENVIRON", r.env.map fun v => (v.1, Value.ofText v.2)), ("ARGV", arguments)] }
    let (_, k) ← (runScript (means deepest)).run.run machine
    leave k.status

end ServerTrials.Client.Utility.Report
