import Conformance.Host.Chars

/-!
# Programs over records

A program is a list of rules, each a pattern and an action on the records that fit it, and of
functions. Expressions are values of texts and numbers; variables need not be declared.
-/
namespace Conformance.Host.Awk

inductive Arithmetic
  | add
  | subtract
  | multiply
  | divide
  | remainder
  | power
deriving DecidableEq, Repr

inductive Comparison
  | less
  | lessEqual
  | equal
  | unequal
  | greater
  | greaterEqual
deriving DecidableEq, Repr

inductive Sign
  | plus
  | minus
  | not
deriving DecidableEq, Repr

/-- Where `getline` reads from. -/
inductive Origin
  | input
  | file
  | command
deriving DecidableEq, Repr

/-- Where output goes to. -/
inductive Target
  | file
  | append
  | command
deriving DecidableEq, Repr

inductive Expr
  | number (x : Float)
  | text (s : Chars)
  /-- An expression that records are matched with. -/
  | pattern (s : Chars)
  | variable (name : Chars)
  | field (index : Expr)
  | element (array : Chars) (subscripts : List Expr)
  | assign (operation : Option Arithmetic) (place value : Expr)
  | choice (condition yes no : Expr)
  | both (left right : Expr)
  | either (left right : Expr)
  | arithmetic (operation : Arithmetic) (left right : Expr)
  | compare (comparison : Comparison) (left right : Expr)
  | concat (left right : Expr)
  | fits (negated : Bool) (value pattern : Expr)
  | member (subscripts : List Expr) (array : Chars)
  | signed (sign : Sign) (value : Expr)
  /-- Counts a variable up or down; the value is the one before or after. -/
  | step (before : Bool) (up : Bool) (place : Expr)
  | call (name : Chars) (args : List Expr)
  | builtin (name : String) (args : List Expr)
  | getline (origin : Origin) (source : Option Expr) (place : Option Expr)
  | group (value : Expr)

instance : Inhabited Expr := ⟨.text []⟩

/-- What output goes to, and how. -/
structure Destination where
  target : Target
  name : Expr

inductive Stmt
  | expression (e : Expr)
  | print (values : List Expr) (destination : Option Destination)
  | printf (values : List Expr) (destination : Option Destination)
  | block (body : List Stmt)
  | choice (condition : Expr) (yes : Stmt) (no : Option Stmt)
  | loop (condition : Expr) (body : Stmt)
  | loopAfter (body : Stmt) (condition : Expr)
  | counting (start : Option Stmt) (condition : Option Expr) (step : Option Stmt) (body : Stmt)
  | each (name array : Chars) (body : Stmt)
  | delete (array : Chars) (subscripts : Option (List Expr))
  | leaveLoop
  | nextRound
  | next
  | nextFile
  | exit (status : Option Expr)
  | giveBack (value : Option Expr)

instance : Inhabited Stmt := ⟨.block []⟩

inductive Pattern
  | begin
  | finish
  | always
  | when (e : Expr)
  | between (first last : Expr)

structure Rule where
  pattern : Pattern
  /-- Without an action the record is printed. -/
  action : Option (List Stmt)

structure Function where
  name : Chars
  parameters : List Chars
  body : List Stmt

structure Script where
  rules : List Rule := []
  functions : List Function := []

end Conformance.Host.Awk
