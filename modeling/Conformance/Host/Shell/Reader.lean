import Conformance.Host.Shell.Script

/-!
# Reading words

A reader goes through the text of a script and counts its lines. This module reads tokens and
words; a word may hold scripts again, so its readers take the reader of scripts as an argument.
-/
namespace Conformance.Host.Shell

/-- A here-document whose text starts after the current line. -/
structure Due where
  number : Nat
  ending : Chars
  /-- Tabs at the start of lines are dropped. -/
  stripped : Bool
  /-- The text is taken as it is. -/
  verbatim : Bool

structure Reader where
  rest : Chars
  line : Nat := 1
  due : List Due := []
  documents : List (Nat × Word) := []
  /-- The number of the next document. -/
  next : Nat := 0
  /-- Words that stand for other texts at the start of a command. -/
  aliases : List (Chars × Chars) := []
  /-- The aliases that are being read, each with the length of what follows its text. -/
  current : List (Chars × Nat) := []
  /-- Where a word may be an alias though it is not the first, by the length of what follows. -/
  again : Option Nat := none

/-- A script that cannot be read, with the line where that showed. -/
structure ScriptFault where
  line : Nat
  reason : Chars

abbrev Parse := StateT Reader (Except ScriptFault)

def fail {α : Type} (reason : String) : Parse α := do
  throw ⟨(← get).line, txt reason⟩

def peek : Parse (Option Char) :=
  return (← get).rest.head?

/-- Goes on by `n` characters. -/
def skip (n : Nat) : Parse Unit :=
  modify fun r =>
    { r with rest := r.rest.drop n, line := r.line + ((r.rest.take n).filter (· == '\n')).length }

def isMeta (c : Char) : Bool :=
  " \t\n;&|<>()".toList.contains c

/-- The length of blanks, joined lines and a comment at the start of a text. -/
def blankLength : Chars → Nat
  | ' ' :: s | '\t' :: s => blankLength s + 1
  | '\\' :: '\n' :: s => blankLength s + 2
  | '#' :: s => (s.takeWhile (· != '\n')).length + 1
  | _ => 0

def skipBlanks : Parse Unit := do
  skip (blankLength (← get).rest)

inductive Token
  | finish
  | newline
  | operator (s : Chars)
  | word
deriving DecidableEq

def operators : List Chars :=
  ["&&", "||", ";;", "<<-", "<<", "<&", "<>", ">>", ">&", ">|", "<", ">", "&", "|", ";", "(",
    ")"].map txt

def redirectOperators : List Chars :=
  ["<<-", "<<", "<&", "<>", ">>", ">&", ">|", "<", ">"].map txt

/-- The next token, which is left to be read. -/
def look : Parse Token := do
  skipBlanks
  let s := (← get).rest
  match s with
  | [] => return .finish
  | '\n' :: _ => return .newline
  | _ =>
    match operators.find? (·.isPrefixOf s) with
    | some o => return .operator o
    | none => return .word

def reservedWords : List Chars :=
  ["!", "case", "do", "done", "elif", "else", "esac", "fi", "for", "if", "in", "then", "until",
    "while", "\x7b", "\x7d"].map txt

/-- The reserved word that comes next, if one does. -/
def lookReserved : Parse (Option Chars) := do
  match ← look with
  | .word =>
    let w := (← get).rest.takeWhile (! isMeta ·)
    return if reservedWords.contains w then some w else none
  | _ => return none

/-- The alias that comes next, if it is not one that is being read. -/
def lookAlias : Parse (Option (Chars × Chars)) := do
  match ← look with
  | .word =>
    let r ← get
    let w := r.rest.takeWhile (! isMeta ·)
    if r.current.any fun (name, n) => name == w && n < r.rest.length then return none
    return (r.aliases.lookup w).map (w, ·)
  | _ => return none

/-- Puts the text of an alias in the place of the word that comes next, as long as that is one. -/
def replaceAlias : (fuel : Nat) → Parse Unit
  | 0 => return
  | fuel + 1 => do
    match ← lookAlias with
    | none => return
    | some (name, value) =>
      modify fun r =>
        let rest := r.rest.drop name.length
        { r with
          rest := value ++ rest
          current := (name, rest.length) :: r.current
          again := if value.getLast? = some ' ' || value.getLast? = some '\t'
            then some rest.length else none }
      replaceAlias fuel

/-- Replaces a word that is an alias where a command begins. -/
def replaceFirst : Parse Unit := do
  if (← lookReserved).isNone then replaceAlias ((← get).aliases.length + 1)

/-- Replaces a word that is an alias behind an alias that ends in a blank. -/
def replaceNext : Parse Unit := do
  let r ← get
  match r.again with
  | none => return
  | some n =>
    skipBlanks
    if (← get).rest.length ≤ n then
      modify fun r => { r with again := none }
      replaceAlias (r.aliases.length + 1)

def quoteChars (s : Chars) : Chars :=
  '"' :: s ++ ['"']

/-- What the next token is called in a complaint. -/
def tokenName : Parse Chars := do
  match ← look with
  | .finish => return txt "end of file"
  | .newline => return txt "newline"
  | .operator o => return if redirectOperators.contains o then txt "redirection" else quoteChars o
  | .word =>
    match ← lookReserved with
    | some w => return quoteChars w
    | none => return txt "word"

/-- Complains of the next token, which should have been another. -/
def unexpected {α : Type} (expected : Option String := none) : Parse α := do
  let name ← tokenName
  let line := (← get).line + (if (← look) = .newline then 1 else 0)
  let tail := match expected with
    | some e => txt " (expecting " ++ quoteChars e.toList ++ [')']
    | none => []
  throw ⟨line, txt "Syntax error: " ++ name ++ txt " unexpected" ++ tail⟩

def expectOperator (o : String) : Parse Unit := do
  if (← look) = .operator o.toList then skip o.length else unexpected (some o)

def expectReserved (w : String) : Parse Unit := do
  if (← lookReserved) = some w.toList then skip w.length else unexpected (some w)

/-- Reads `text` in place of what is left, whose lines are counted from `line` on. -/
def withinFrom {α : Type} (line : Nat) (text : Chars) (p : Parse α) : Parse α := do
  let outer ← get
  set { outer with rest := text, line }
  let a ← p
  modify fun r => { r with rest := outer.rest, line := outer.line }
  return a

/-- Reads `text` in place of what is left. -/
def within {α : Type} (text : Chars) (p : Parse α) : Parse α := do
  withinFrom (← get).line text p

/-! ## Pieces -/

/-- Where pieces stand. -/
inductive Context
  | plain
  | quotes
  | braces (quoted : Bool)
  | document
deriving DecidableEq

namespace Context

def isQuoted : Context → Bool
  | .plain => false
  | .quotes | .document => true
  | .braces quoted => quoted

def stops : Context → Char → Bool
  | .plain, c => isMeta c
  | .quotes, c => c == '"'
  | .braces _, c => c == '\x7d'
  | .document, _ => false

/-- The characters that a backslash protects. -/
def escapes : Context → Char → Bool
  | .plain, _ | .braces false, _ => true
  | .quotes, c => "$`\"\\".toList.contains c
  | .braces true, c => "$`\"\\\x7d".toList.contains c
  | .document, c => "$`\\".toList.contains c

end Context

/-- With one more character at the end of the last piece. -/
def addChar (quoted : Bool) (c : Char) : List Piece → List Piece
  | .text q s :: ps =>
    if q = quoted then .text q (c :: s) :: ps else .text quoted [c] :: .text q s :: ps
  | ps => .text quoted [c] :: ps

/-- Pieces that were collected in reverse. -/
def collected (ps : List Piece) : List Piece :=
  (ps.map fun
    | .text q s => .text q s.reverse
    | p => p).reverse

/-- The text up to a backquote, whose backslashes protect `$`, backquotes and themselves, and the
number of characters read. -/
def backquoted (quoted : Bool) : Chars → Option (Chars × Nat)
  | [] => none
  | '\x60' :: _ => some ([], 1)
  | '\\' :: c :: s =>
    let keeps := !(c == '$' || c == '\x60' || c == '\\' || (quoted && c == '"'))
    (backquoted quoted s).map fun (t, n) => (if keeps then '\\' :: c :: t else c :: t, n + 2)
  | c :: s => (backquoted quoted s).map fun (t, n) => (c :: t, n + 1)

/-- The text up to the two brackets that close an arithmetic expression, `depth` brackets deep. One
that closes nothing is a part of it. -/
def arithmeticText : (depth : Nat) → Chars → Option Chars
  | _, [] => none
  | 0, ')' :: ')' :: _ => some []
  | depth, ')' :: s => (arithmeticText (depth - 1) s).map (')' :: ·)
  | depth, '(' :: s => (arithmeticText (depth + 1) s).map ('(' :: ·)
  | depth, c :: s => (arithmeticText depth s).map (c :: ·)

/-- The length of the name of a parameter at the start of a text. -/
def parameterLength : Chars → Nat
  | c :: s =>
    if isNameStart c then (s.takeWhile isNameChar).length + 1
    else if c.isDigit then (s.takeWhile Char.isDigit).length + 1
    else if "@*#?-$!".toList.contains c then 1
    else 0
  | [] => 0

/-- The operation that an operator in braces asks for, and the length of the operator. -/
def operation? : Chars → Option (Operation × Nat)
  | ':' :: '-' :: _ => some (.default true, 2)
  | ':' :: '=' :: _ => some (.assign true, 2)
  | ':' :: '?' :: _ => some (.require true, 2)
  | ':' :: '+' :: _ => some (.alternative true, 2)
  | '-' :: _ => some (.default false, 1)
  | '=' :: _ => some (.assign false, 1)
  | '?' :: _ => some (.require false, 1)
  | '+' :: _ => some (.alternative false, 1)
  | '#' :: '#' :: _ => some (.dropFront true, 2)
  | '#' :: _ => some (.dropFront false, 1)
  | '%' :: '%' :: _ => some (.dropBack true, 2)
  | '%' :: _ => some (.dropBack false, 1)
  | _ => none

section

variable (script : Parse (List Command))

/-- After `$` and an opening brace: the parameter, with the pieces of its word read by `word`. -/
def braced (quoted : Bool) (word : Context → Parse (List Piece)) : Parse Piece := do
  let s := (← get).rest
  let n := parameterLength s
  let rest := s.drop n
  if s.head? = some '#' && s.length ≠ 1 && parameterLength (s.drop 1) ≠ 0 &&
      (s.drop (1 + parameterLength (s.drop 1))).head? = some '\x7d' then
    let n := parameterLength (s.drop 1)
    skip (n + 2)
    return .parameter quoted ((s.drop 1).take n) .length []
  else if n ≠ 0 && rest.head? = some '\x7d' then
    skip (n + 1)
    return .parameter quoted (s.take n) .value []
  else match operation? rest with
    | some (o, m) =>
      skip (n + m)
      let ctx := match o with
        | .dropFront _ | .dropBack _ => .braces false
        | _ => .braces quoted
      let w ← word ctx
      if (← peek) = none then fail "Syntax error: Missing '\x7d'"
      skip 1
      return .parameter quoted (if n = 0 then [] else s.take n) o w
    | none =>
      let w ← word (.braces quoted)
      if (← peek) = none then fail "Syntax error: Missing '\x7d'"
      skip 1
      return .parameter quoted [] .value w

/-- After `$`: an expansion, if one begins here. -/
def dollar (quoted : Bool) (word : Context → Parse (List Piece)) : Parse (Option Piece) := do
  let s := (← get).rest
  match s with
  | '(' :: '(' :: t =>
    match arithmeticText 0 t with
    | some text =>
      skip (text.length + 4)
      return some (.number quoted (← within text (word .document)))
    | none =>
      skip s.length
      fail "Syntax error: Missing '))'"
  | '(' :: _ =>
    skip 1
    let body ← script
    expectOperator ")"
    return some (.output quoted body)
  | '\x7b' :: _ =>
    skip 1
    return some (← braced quoted word)
  | c :: _ =>
    let n := if c.isDigit then 1 else parameterLength s
    if n = 0 then return none
    skip n
    return some (.parameter quoted (s.take n) .value [])
  | [] => return none

/-- The pieces up to the end of a context; `soFar` holds those read, in reverse. -/
def pieces : (fuel : Nat) → Context → (soFar : List Piece) → Parse (List Piece)
  | 0, _, _ => fail "Syntax error: word too long"
  | fuel + 1, ctx, soFar => do
    let q := ctx.isQuoted
    match (← get).rest with
    | [] => return collected soFar
    | c :: s =>
      if ctx.stops c then return collected soFar
      else if c = '\\' then
        match s with
        | [] => skip 1; pieces fuel ctx (addChar true c soFar)
        | '\n' :: _ => skip 2; pieces fuel ctx soFar
        | e :: _ =>
          skip 2
          if ctx.escapes e then pieces fuel ctx (addChar true e soFar)
          else pieces fuel ctx (addChar true e (addChar true c soFar))
      else if c = '\'' && !q then
        let inside := s.takeWhile (· != '\'')
        if inside.length = s.length then
          skip (s.length + 1)
          fail "Syntax error: Unterminated quoted string"
        skip (inside.length + 2)
        pieces fuel ctx (.text true inside.reverse :: soFar)
      else if c = '"' && ctx ≠ .document then
        skip 1
        let inside ← pieces fuel .quotes []
        if (← peek) = none then fail "Syntax error: Unterminated quoted string"
        skip 1
        let inside' := if inside.isEmpty then [.text true []] else inside
        let reversed := (inside'.map fun
          | .text q s => .text q s.reverse
          | p => p).reverse
        pieces fuel ctx (reversed ++ soFar)
      else if c = '$' then
        skip 1
        match ← dollar script q (fun ctx' => pieces fuel ctx' []) with
        | some p => pieces fuel ctx (p :: soFar)
        | none => pieces fuel ctx (addChar q c soFar)
      else if c = '\x60' then
        match backquoted q s with
        | none =>
          skip (s.length + 1)
          fail "Syntax error: EOF in backquote substitution"
        | some (text, n) =>
          let body ← withinFrom 1 text script
          skip (n + 1)
          pieces fuel ctx (.output q body :: soFar)
      else
        skip 1
        pieces fuel ctx (addChar q c soFar)

/-- The word that comes next. -/
def readWord : Parse Word := do
  skipBlanks
  pieces script (2 * (← get).rest.length + 2) .plain []

end

/-! ## Here-documents -/

/-- The lines of a document before its ending, and the number of characters read. -/
def documentLines (d : Due) : List Chars → Chars × Nat
  | [] => ([], 0)
  | line :: lines =>
    let shown := if d.stripped then line.dropWhile (· == '\t') else line
    if Chars.withoutNewline shown = d.ending then ([], line.length)
    else
      let (text, n) := documentLines d lines
      (shown ++ text, n + line.length)

def readDocument (script : Parse (List Command)) (d : Due) : Parse Unit := do
  let (text, n) := documentLines d (Chars.lines (← get).rest)
  let word ←
    if d.verbatim then pure [Piece.text true text]
    else within text (pieces script (2 * text.length + 2) .document [])
  skip n
  modify fun r => { r with documents := (d.number, word) :: r.documents }

/-- Reads a newline and the documents that were due. -/
def readNewline (script : Parse (List Command)) : Parse Unit := do
  skip 1
  let due := (← get).due
  modify fun r => { r with due := [] }
  due.forM (readDocument script)

/-- Reads newlines, as many as there are. -/
def skipNewlines (script : Parse (List Command)) : (fuel : Nat) → Parse Unit
  | 0 => return
  | fuel + 1 => do
    if (← look) = .newline then
      readNewline script
      skipNewlines script fuel

end Conformance.Host.Shell
