import ServerTrials.Client.Regex.Basic
import ServerTrials.Number.Binary64

/-!
Scripts of the report writer: rules that say what to do with which records.
-/

namespace ServerTrials.Client.Utility.Report

/-- A reckoning of two numbers. -/
inductive Arith where
  | add
  | sub
  | mul
  | div
  | rem
  | pow
  deriving DecidableEq, Repr

/-- A comparison of two values. -/
inductive Comparison where
  | less
  | atMost
  | equal
  | unequal
  | greater
  | atLeast
  deriving DecidableEq, Repr

/-- An expression. -/
inductive Expr where
  | number (x : Binary64)
  | text (s : String)
  /-- Whether the record matches. -/
  | regex (r : Regex)
  | name (s : String)
  | element (array : String) (index : List Expr)
  | field (e : Expr)
  | assign (target value : Expr)
  | update (op : Arith) (target value : Expr)
  /-- Counts up or down; the value is the new one or the old one. -/
  | count (target : Expr) (up new : Bool)
  | choice (c a b : Expr)
  | or (a b : Expr)
  | and (a b : Expr)
  | not (e : Expr)
  | isIn (index : List Expr) (array : String)
  | isMatch (e pattern : Expr) (negated : Bool)
  | comparison (op : Comparison) (a b : Expr)
  | join (a b : Expr)
  | arith (op : Arith) (a b : Expr)
  | negate (e : Expr)
  | plus (e : Expr)
  /-- A function of the language. -/
  | builtin (name : String) (args : List Expr)
  | call (name : String) (args : List Expr)
  /-- The next record, or the next line of a file, for a target or the current record. -/
  | fetch (target : Option Expr) (path : Option Expr)
  /-- Expressions in parentheses. -/
  | group (es : List Expr)

/-- Where something is written to. -/
inductive Outlet where
  | replace (path : Expr)
  | append (path : Expr)
  | command (text : Expr)

/-- A statement. -/
inductive Statement where
  | expr (e : Expr)
  | print (es : List Expr) (outlet : Option Outlet)
  | printf (es : List Expr) (outlet : Option Outlet)
  | choice (c : Expr) (a b : List Statement)
  | loop (c : Expr) (body : List Statement)
  /-- The body comes before the first question. -/
  | loopAfter (body : List Statement) (c : Expr)
  /-- A beginning, a question, what is done after each turn, and the body. -/
  | loopFrom (start : List Statement) (c : Option Expr) (next : List Statement) (body : List Statement)
  | loopOver (name array : String) (body : List Statement)
  | leave
  | again
  | next
  | exit (status : Option Expr)
  | answer (value : Option Expr)
  | delete (array : String) (index : List Expr)
  | block (body : List Statement)

/-- When the statements of a rule are done. -/
inductive Trigger where
  | begin
  | finish
  | always
  | when (e : Expr)
  /-- From a record to another one; the number tells rules of this kind apart. -/
  | between (number : Nat) (first last : Expr)

/-- A rule; without statements it prints the record. -/
structure Rule where
  trigger : Trigger
  body : Option (List Statement)

/-- A function of a script. -/
structure Function where
  name : String
  parameters : List String
  body : List Statement

/-- A script. -/
structure Script where
  rules : List Rule := []
  functions : List Function := []

end ServerTrials.Client.Utility.Report
