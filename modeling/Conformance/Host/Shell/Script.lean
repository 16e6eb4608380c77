import Conformance.Host.Chars

/-!
# Scripts

A script is a list of commands. Words are made of pieces, some of which stand for a text that is
known only when the command is run: the value of a parameter, the output of a script, the value of
an arithmetic expression. What was written in quotes is marked, since it is never divided or
matched against file names.
-/
namespace Conformance.Host.Shell

/-- What is asked of a parameter. With `empty` set, an empty value counts as none. -/
inductive Operation
  | value
  | length
  | default (empty : Bool)
  | assign (empty : Bool)
  | require (empty : Bool)
  | alternative (empty : Bool)
  | dropFront (longest : Bool)
  | dropBack (longest : Bool)
deriving DecidableEq, Repr, Inhabited

inductive Direction
  | input
  | output
  /-- Output into a file even if files are kept from it. -/
  | clobber
  | append
  | both
  | copy
deriving DecidableEq, Repr, Inhabited

/-- How the command after an operator depends on the one before. -/
inductive Junction
  | both
  | either
deriving DecidableEq, Repr, Inhabited

mutual

inductive Piece
  | text (quoted : Bool) (content : Chars)
  | parameter (quoted : Bool) (name : Chars) (operation : Operation) (word : List Piece)
  | output (quoted : Bool) (script : List Command)
  | number (quoted : Bool) (expression : List Piece)

inductive Redirect
  | file (target : Nat) (direction : Direction) (word : List Piece)
  /-- The text of the document with this number. -/
  | document (target : Nat) (number : Nat)

inductive Command
  | simple (line : Nat) (assignments : List (Chars × List Piece)) (words : List (List Piece))
      (redirects : List Redirect)
  | pipeline (negated : Bool) (stages : List Command)
  | junction (kind : Junction) (left right : Command)
  | background (command : Command)
  | group (body : List Command)
  | subshell (body : List Command)
  | choice (condition body otherwise : List Command)
  | loop (until_ : Bool) (condition body : List Command)
  | each (name : Chars) (words : Option (List (List Piece))) (body : List Command)
  | switch (word : List Piece) (arms : List (List (List Piece) × List Command))
  | define (name : Chars) (body : Command)
  | redirected (line : Nat) (command : Command) (redirects : List Redirect)

end

abbrev Word := List Piece

instance : Inhabited Piece := ⟨.text false []⟩
instance : Inhabited Command := ⟨.group []⟩

/-- The text of a word without quotes and expansions. -/
def plainWord? (w : Word) : Option Chars :=
  match w with
  | [.text false s] => some s
  | _ => none

def isNameStart (c : Char) : Bool :=
  c.isAlpha || c == '_'

def isNameChar (c : Char) : Bool :=
  c.isAlphanum || c == '_'

def isName : Chars → Bool
  | c :: s => isNameStart c && s.all isNameChar
  | [] => false

end Conformance.Host.Shell
