import Conformance.Host.Sed.Script

/-!
# Reading scripts

A script is read command by command. What is wrong with it is told with the place that was come to,
as the length of what was not read.
-/
namespace Conformance.Host.Sed

open Utility (Regex RegexStyle)

/-- Which place is told with a fault. -/
inductive FaultPlace
  | here
  | start
  | none
deriving DecidableEq

/-- What is wrong with a script, and how much of it was not read. -/
structure ScriptFault where
  message : String
  rest : Nat
  place : FaultPlace := .here

abbrev Reading := StateT Chars (Except ScriptFault)

/-- How scripts are written and what they may do. -/
structure Dialect where
  style : RegexStyle
  /-- Commands that touch files or run programs are refused. -/
  confined : Bool

def fail {α : Type} (message : String) : Reading α := do
  throw { message, rest := (← get).length }

/-- Takes the next character. -/
def take : Reading (Option Char) := do
  match ← get with
  | [] => return none
  | c :: s => set s; return some c

/-- Takes characters as long as they are as asked for. -/
def takeAll (member : Char → Bool) : Reading Chars := do
  let s ← get
  let taken := s.takeWhile member
  set (s.drop taken.length)
  return taken

def skipBlanks : Reading Unit := do
  let _ ← takeAll isBlank

/-- A number of digits, if there are any. -/
def takeNumber : Reading (Option Nat) := do
  let digits ← takeAll Char.isDigit
  return if digits.isEmpty then none else some (Chars.natOfDigits digits)

/-! ## Texts between marks -/

/-- A bracket at the start of a list that is a member of it, with a caret before it. -/
def listStart (s : Chars) : Chars :=
  let caret := s.takeWhile (· == '^') |>.take 1
  caret ++ ((s.drop caret.length).take 1).filter (· == ']')

/-- The text up to a mark, and what follows the mark; what was not read if there is none on the
line. An escaped mark loses its backslash. In the brackets of an expression a mark counts as any
other character. -/
def untilMark (mark : Char) (isExpression : Bool) : (fuel : Nat) → (bracket : Bool) → Chars →
    Except Chars (Chars × Chars)
  | 0, _, s => .error s
  | _, _, [] => .error []
  | fuel + 1, bracket, '\\' :: c :: s =>
    let kept := c != mark || (c == '&' && !isExpression)
    (untilMark mark isExpression fuel bracket s).map fun (t, rest) =>
      (if kept then '\\' :: c :: t else c :: t, rest)
  | fuel + 1, bracket, c :: s =>
    if c = '\n' then .error (c :: s)
    else if bracket then
      let inner := if c = '[' && s.head? = some ':' then
          let name := (s.drop 1).takeWhile Char.isAlpha
          if (txt ":]").isPrefixOf (s.drop (name.length + 1)) then s.take (name.length + 3) else []
        else []
      (untilMark mark isExpression fuel (c != ']') (s.drop inner.length)).map fun (t, rest) =>
        (c :: inner ++ t, rest)
    else if c = mark then .ok ([], s)
    else if c = '[' && isExpression then
      let start := listStart s
      (untilMark mark isExpression fuel true (s.drop start.length)).map fun (t, rest) =>
        (c :: start ++ t, rest)
    else (untilMark mark isExpression fuel false s).map fun (t, rest) => (c :: t, rest)

/-- Takes the text up to a mark. -/
def takeUntil (mark : Char) (isExpression : Bool) (message : String) : Reading Chars := do
  let s ← get
  match untilMark mark isExpression (s.length + 1) false s with
  | .ok (t, rest) => set rest; return t
  | .error rest =>
    set rest
    fail message

/-- The parts of a replacement. -/
def partsOfReplacement : (fuel : Nat) → Chars → List Part
  | 0, _ | _, [] => []
  | fuel + 1, '\\' :: c :: s =>
    match c with
    | 'U' => .letters .upper :: partsOfReplacement fuel s
    | 'L' => .letters .lower :: partsOfReplacement fuel s
    | 'E' => .letters .asIs :: partsOfReplacement fuel s
    | 'u' => .nextLetter .upper :: partsOfReplacement fuel s
    | 'l' => .nextLetter .lower :: partsOfReplacement fuel s
    | _ =>
      if c.isDigit then .group (c.toNat - '0'.toNat) :: partsOfReplacement fuel s
      else
        match escapedChar? c, Utility.numberedChar? (c :: s) with
        | some d, _ => .text [d] :: partsOfReplacement fuel s
        | none, some (d, n) => .text [d] :: partsOfReplacement fuel ((c :: s).drop n)
        | none, none => .text [c] :: partsOfReplacement fuel s
  | fuel + 1, '&' :: s => .group 0 :: partsOfReplacement fuel s
  | fuel + 1, c :: s => .text [c] :: partsOfReplacement fuel s

/-- The largest group that parts ask for. -/
def largestGroup (parts : List Part) : Nat :=
  parts.foldl (fun n part => match part with
    | .group m => max n m
    | _ => n) 0

/-- A text without its backslashes, some of which stand before a letter for another character. -/
def plainText : (fuel : Nat) → Chars → Chars
  | 0, _ | _, [] => []
  | fuel + 1, '\\' :: c :: s =>
    match escapedChar? c, Utility.numberedChar? (c :: s) with
    | some d, _ => d :: plainText fuel s
    | none, some (d, n) => d :: plainText fuel ((c :: s).drop n)
    | none, none => c :: plainText fuel s
  | fuel + 1, c :: s => c :: plainText fuel s

/-- The rest of a line, which a backslash at its end continues, and what follows it. -/
def continuedLine : Chars → Chars × Chars
  | [] => ([], [])
  | '\\' :: c :: s =>
    let (t, rest) := continuedLine s
    ('\\' :: c :: t, rest)
  | '\n' :: s => ([], s)
  | c :: s =>
    let (t, rest) := continuedLine s
    (c :: t, rest)

/-! ## Expressions and addresses -/

/-- The expression that a text writes; an empty text is the one that was used last. -/
def expression (st : RegexStyle) (folds : Bool) (s : Chars) : Reading (Option Regex) := do
  if s.isEmpty then return none
  match Regex.read st s with
  | .ok r =>
    let r := r.ofLetters
    return some (if folds then r.ignoringCase else r)
  | .error .bareClass =>
    throw { message := Utility.RegexFault.bareClass.message, rest := 0, place := .none }
  | .error f => fail f.message

/-- The flags behind an expression that is an address: whether letters count in any case, and
whether lines inside of the buffer count. -/
def addressFlags : (fuel : Nat) → Bool × Bool → Reading (Bool × Bool)
  | 0, flags => return flags
  | fuel + 1, (folds, multiline) => do
    skipBlanks
    match ← get with
    | 'I' :: s => set s; addressFlags fuel (true, multiline)
    | 'M' :: s => set s; addressFlags fuel (folds, true)
    | _ => return (folds, multiline)

/-- An address, if there is one. -/
def address? (st : RegexStyle) : Reading (Option Address) := do
  let found (mark : Char) : Reading (Option Address) := do
    let s ← takeUntil mark true "unterminated address regex"
    let (folds, multiline) ← addressFlags (← get).length (false, false)
    return some (.found (← expression { st with multiline } folds s))
  match ← get with
  | '$' :: s => set s; return some .lastLine
  | '/' :: s => set s; found '/'
  | '\\' :: mark :: s => set s; found mark
  | ['\\'] => set ([] : Chars); fail "unterminated address regex"
  | '+' :: s => set s; return some (.after ((← takeNumber).getD 0))
  | '~' :: s => set s; return some (.multiple ((← takeNumber).getD 0))
  | _ =>
    match ← takeNumber with
    | none => return none
    | some n =>
      skipBlanks
      match ← get with
      | '~' :: s =>
        set s
        skipBlanks
        let step := (← takeNumber).getD 0
        return some (if step = 0 then .line n else .each n step)
      | _ => return some (.line n)

/-- Fails after one more character. -/
def failBehind {α : Type} (message : String) : Reading α := do
  let _ ← take
  fail message

/-- The mark that turns a choice of lines around, if it stands here. -/
def negation : Reading Bool := do
  match ← get with
  | '!' :: rest =>
    set rest
    skipBlanks
    if (← get).head? = some '!' then failBehind "multiple \x60!'s"
    return true
  | _ => return false

/-- The lines that a command is for. -/
def scope (st : RegexStyle) : Reading Scope := do
  let first ← address? st
  match first with
  | some (.after _) | some (.multiple _) => fail "invalid usage of +N or ~N as first address"
  | _ => pure ()
  skipBlanks
  let second ← match first, ← get with
    | some _, ',' :: s => do
      set s
      skipBlanks
      match ← address? st with
      | none => failBehind "unexpected \x60,'"
      | some a => pure (some a)
    | _, _ => pure none
  skipBlanks
  match first, second with
  | some (.line 0), some (.found _) => pure ()
  | some (.line 0), none =>
    if (← get).head? ≠ some 'r' then failBehind "invalid usage of line address 0"
  | some (.line 0), _ => failBehind "invalid usage of line address 0"
  | _, _ => pure ()
  return { first, second, negated := ← negation }

/-! ## Commands -/

/-- The end of a command: a semicolon, the end of the line, or what may follow without one. -/
def endOfCommand : Reading Unit := do
  skipBlanks
  match ← get with
  | [] => return
  | c :: s =>
    if c = '\x7d' || c = '#' then return
    set s
    if c ≠ '\n' && c ≠ ';' then fail "extra characters after command"

/-- A label, up to a blank or a semicolon. -/
def takeLabel : Reading Chars := do
  skipBlanks
  takeAll fun c => !isSpace c && c != ';' && c != '\x7d'

/-- A file name, up to the end of the line. -/
def takeName : Reading Chars := do
  skipBlanks
  let name ← takeAll (· != '\n')
  if name.isEmpty then fail "missing filename in r/R/w/W commands"
  return Chars.spelled name

/-- Fails if the script may not go beyond its input and output. -/
def refuseIfConfined (d : Dialect) : Reading Unit := do
  if d.confined then fail "e/r/w commands disabled in sandbox mode"

/-- Where lines go that are written to a file of some name. -/
def Outlet.ofName (name : Chars) : Outlet :=
  if name = txt "/dev/stdout" then .output
  else if name = txt "/dev/stderr" then .errors
  else .file name

/-- The text of a command that has one, up to the end of its line. -/
def takeText : Reading Chars := do
  skipBlanks
  match ← get with
  | [] => fail "expected \\ after \x60a', \x60c' or \x60i'"
  | s =>
    let s := match s with
      | '\\' :: rest =>
        let unblanked := rest.dropWhile isBlank
        if unblanked.head? = some '\n' then unblanked.drop 1 else rest
      | s => s
    let (t, rest) := continuedLine s
    set rest
    return if s.isEmpty then [] else plainText (t.length + 1) t ++ ['\n']

/-- The command that is to be run, unless it is the line. -/
def takeCommand : Reading (Option Chars) := do
  skipBlanks
  match ← get with
  | [] => return none
  | '\n' :: s => set s; return none
  | _ => return some (← takeText).dropLast

/-- What the flags behind a substitution ask for. -/
structure SubstitutionFlags where
  folds : Bool := false
  multiline : Bool := false
  all : Bool := false
  shown : Bool := false
  runs : Bool := false
  shownFirst : Bool := false
  first : Option Nat := none
  outlet : Option Outlet := none

def substitutionFlags (d : Dialect) :
    (fuel : Nat) → SubstitutionFlags → Reading SubstitutionFlags
  | 0, f => return f
  | fuel + 1, f => do
    match ← get with
    | [] => return f
    | c :: s =>
      if c = '\x7d' || c = '#' then return f
      set s
      match c with
      | '\n' | ';' => return f
      | ' ' | '\t' | '\r' => substitutionFlags d fuel f
      | 'i' | 'I' => substitutionFlags d fuel { f with folds := true }
      | 'm' | 'M' => substitutionFlags d fuel { f with multiline := true }
      | 'g' =>
        if f.all then fail "multiple \x60g' options to \x60s' command"
        substitutionFlags d fuel { f with all := true }
      | 'p' =>
        if f.shown || f.shownFirst then fail "multiple \x60p' options to \x60s' command"
        substitutionFlags d fuel (if f.runs then { f with shown := true }
          else { f with shownFirst := true })
      | 'e' =>
        refuseIfConfined d
        substitutionFlags d fuel { f with runs := true }
      | 'w' =>
        refuseIfConfined d
        return { f with outlet := some (.ofName (← takeName)) }
      | _ =>
        if !c.isDigit then fail "unknown option to \x60s'"
        if f.first.isSome then fail "multiple number options to \x60s' command"
        set (c :: s)
        let n := (← takeNumber).getD 0
        if n = 0 then fail "number option to \x60s' command may not be zero"
        substitutionFlags d fuel { f with first := some n }

def substitution (d : Dialect) : Reading Edit := do
  let unterminated := "unterminated \x60s' command"
  match ← take with
  | none => fail unterminated
  | some mark =>
    let pattern ← takeUntil mark true unterminated
    let replacement ← takeUntil mark false unterminated
    let parts := partsOfReplacement (replacement.length + 1) replacement
    let flags ← substitutionFlags d ((← get).length + 1) {}
    let sought ← expression { d.style with multiline := flags.multiline } flags.folds pattern
    let largest := largestGroup parts
    match sought with
    | some r =>
      if r.groupCount < largest then
        fail ("invalid reference \\" ++ toString largest ++ " on \x60s' command's RHS")
    | none => pure ()
    return .substitute {
      sought, parts, first := flags.first.getD 1, all := flags.all, runs := flags.runs
      shown := flags.shown || (flags.shownFirst && !flags.runs)
      shownFirst := flags.shownFirst && flags.runs, outlet := flags.outlet }

def exchange : Reading Edit := do
  let unterminated := "unterminated \x60y' command"
  match ← take with
  | none => fail unterminated
  | some mark =>
    let listed : Reading Chars := do
      let s ← takeUntil mark false unterminated
      return plainText (s.length + 1) s
    let old ← listed
    let new ← listed
    if old.length ≠ new.length then fail "strings for \x60y' command are different lengths"
    endOfCommand
    return .exchange old new

/-- A command of one letter with a number that may be left out. -/
def numbered (make : Option Nat → Edit) : Reading Edit := do
  skipBlanks
  let n ← takeNumber
  endOfCommand
  return make n

/-- A command of one letter. -/
def plain (e : Edit) : Reading Edit := do
  endOfCommand
  return e

/-- The version that commands are carried out as. -/
def version : List Nat :=
  [4, 9]

/-- Whether a text is a version that is not after this one. -/
def isOldVersion (s : Chars) : Bool :=
  let parts := if s.isEmpty then [] else Text.splitOn (· == '.') s
  match parts.mapM Chars.nat? with
  | none => false
  | some numbers => !List.lex version numbers

/-- The command that a letter begins. -/
def edit (d : Dialect) (s : Scope) (c : Char) : Reading Edit := do
  match c with
  | '\x7b' => return .blockStart
  | '=' => plain .number
  | 'd' => plain .delete
  | 'D' => plain .deleteLine
  | 'F' => plain .inputName
  | 'g' => plain (.recall false)
  | 'G' => plain (.recall true)
  | 'h' => plain (.hold false)
  | 'H' => plain (.hold true)
  | 'n' => plain .next
  | 'N' => plain .nextAppended
  | 'p' => plain .showBuffer
  | 'P' => plain .showLine
  | 'x' => plain .swap
  | 'z' => plain .empty
  | 'l' => numbered .showEscaped
  | 'q' | 'Q' =>
    if s.second.isSome then fail "command only uses one address"
    numbered fun n => .quit (c == 'q') (n.getD 0)
  | 'a' => return .append (← takeText)
  | 'i' => return .insert (← takeText)
  | 'c' => return .change (← takeText)
  | ':' =>
    if s.first.isSome then fail ": doesn't want any addresses"
    let name ← takeLabel
    if name.isEmpty then fail "\":\" lacks a label"
    return .label name
  | 'b' => return .jump .always (← takeLabel)
  | 't' => return .jump .replaced (← takeLabel)
  | 'T' => return .jump .unreplaced (← takeLabel)
  | 'e' =>
    refuseIfConfined d
    return .run (← takeCommand)
  | 'r' | 'R' | 'w' | 'W' =>
    refuseIfConfined d
    let name ← takeName
    match c with
    | 'r' =>
      return match s.first, s.second with
        | some (.line 0), none => .readFirst name
        | _, _ => .readFile name
    | 'R' => return .readLine name
    | c => return .write (.ofName name) (c == 'W')
  | 's' => substitution d
  | 'y' => exchange
  | 'v' =>
    let version ← takeLabel
    if !isOldVersion version then fail "expected newer version of sed"
    return .nothing
  | c =>
    fail (String.ofList (txt "unknown command: \x60" ++ (Chars.spelled [c]).take 1 ++ ['\'']))

/-- The commands of a script; so many blocks are open. -/
def takeCommands (d : Dialect) : (fuel : Nat) → (depth : Nat) → Reading (List Command)
  | 0, _ => return []
  | fuel + 1, depth => do
    let _ ← takeAll fun c => isSpace c || c == ';'
    if (← get).isEmpty then
      if depth = 0 then return []
      throw { message := "unmatched \x60\x7b'", rest := 0, place := .start }
    let s ← scope d.style
    match ← take with
    | none => fail "missing command"
    | some '#' =>
      if s.first.isSome then fail "comments don't accept any addresses"
      let _ ← takeAll (· != '\n')
      takeCommands d fuel depth
    | some '\x7d' =>
      if depth = 0 then fail "unexpected \x60\x7d'"
      if s.first.isSome then fail "\x60\x7d' doesn't want any addresses"
      endOfCommand
      return { number := fuel, edit := .blockEnd } :: (← takeCommands d fuel (depth - 1))
    | some c =>
      let e ← edit d s c
      let deeper := if c = '\x7b' then depth + 1 else depth
      return { number := fuel, scope := s, edit := e } :: (← takeCommands d fuel deeper)

/-- The first label that is jumped to and stands nowhere. -/
def missingLabel? (s : Script) : Option Chars :=
  s.commands.findSome? fun c => match c.edit with
    | .jump _ name => if (s.fromLabel name).isNone then some name else none
    | _ => none

/-- The script that a text writes. -/
def Script.read (extended confined : Bool) (s : Chars) : Except ScriptFault Script :=
  let d : Dialect := { style := { extended, escapes := true, classBrackets := true }, confined }
  let letters := Chars.joined s
  let quiet := s = txt "#n" || (txt "#n\n").isPrefixOf s
  match (takeCommands d (letters.length + 1) 0).run letters with
  | .ok (commands, _) => .ok { commands, quiet }
  | .error f =>
    .error { f with rest := (Chars.spelled (letters.drop (letters.length - f.rest))).length }

end Conformance.Host.Sed
