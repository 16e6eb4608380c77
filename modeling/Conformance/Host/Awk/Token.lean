import Conformance.Host.Numeral
import Conformance.Host.Utility.Format

/-!
# Tokens of programs over records

Whether a slash begins a pattern or divides depends on the token before it.
-/
namespace Conformance.Host.Awk

inductive TokenKind
  | number (x : Float)
  | text (s : Chars)
  | pattern (s : Chars)
  | name (s : Chars)
  /-- A name with a parenthesis right behind it. -/
  | call (s : Chars)
  | builtin (s : String)
  | word (s : String)
  | mark (s : String)
  | newline

structure Token where
  kind : TokenKind
  line : Nat

def words : List String :=
  ["BEGIN", "END", "function", "if", "else", "while", "for", "do", "break", "continue",
    "next", "nextfile", "exit", "return", "delete", "in", "getline", "print", "printf"]

def builtins : List String :=
  ["length", "substr", "index", "split", "sub", "gsub", "match", "sprintf", "sin", "cos", "atan2",
    "exp", "log", "sqrt", "int", "rand", "srand", "tolower", "toupper", "system", "close",
    "fflush", "mktime", "strftime", "systime"]

def longMarks : List String :=
  ["<=", ">=", "==", "!=", "!~", "&&", "||", "++", "--", "+=", "-=", "*=", "/=", "%=", "^=", ">>"]

def shortMarks : Chars :=
  "\x7b\x7d()[];,+-*/%^!<>|?:~$=".toList

/-- Whether a slash behind this token divides. -/
def TokenKind.endsOperand : TokenKind → Bool
  | number _ | text _ | pattern _ | name _ | builtin _ => true
  | mark s => s == ")" || s == "]" || s == "++" || s == "--"
  | call _ | word _ | newline => false

/-- How a token is named in a complaint. -/
def TokenKind.shown : TokenKind → Chars
  | number x => Numeral.general 'e' 6 false (Decimal.Binary.ofFloat x).magnitude
  | text s => '"' :: s ++ ['"']
  | pattern s => '/' :: s ++ ['/']
  | name s | call s => s
  | builtin s | word s | mark s => s.toList
  | newline => txt "end of line"

/-- What an escape in a text stands for, and its length behind the backslash. -/
def escaped (s : Chars) : Chars × Nat :=
  match s with
  | [] => (['\\'], 0)
  | c :: _ =>
    match c with
    | '"' => (['"'], 1)
    | '\\' => (['\\'], 1)
    | 'n' => (['\n'], 1)
    | 't' => (['\t'], 1)
    | 'r' => (['\r'], 1)
    | 'a' => (['\x07'], 1)
    | 'b' => (['\x08'], 1)
    | 'f' => (['\x0c'], 1)
    | 'v' => (['\x0b'], 1)
    | '\n' => ([], 1)
    | _ =>
      let octal := Utility.octalDigits 3 s
      let hex := if c = 'x' then ((s.drop 1).take 2).takeWhile Utility.isHexDigit else []
      if !octal.isEmpty then ([Utility.byteChar (Utility.baseValue 8 octal)], octal.length)
      else if !hex.isEmpty then ([Utility.byteChar (Utility.baseValue 16 hex)], hex.length + 1)
      else (['\\', c], 1)

/-- The text up to a closing quote, and what follows the quote. -/
def quotedText : (fuel : Nat) → Chars → Option (Chars × Chars)
  | 0, _ | _, [] => none
  | _, '"' :: s => some ([], s)
  | _, '\n' :: _ => none
  | fuel + 1, '\\' :: s =>
    let (t, n) := escaped s
    (quotedText fuel (s.drop n)).map fun (u, rest) => (t ++ u, rest)
  | fuel + 1, c :: s => (quotedText fuel s).map fun (u, rest) => (c :: u, rest)

/-- The pattern up to a closing slash, and what follows; a slash in a list of characters does not
close it. -/
def patternText (listed : Bool) : Chars → Option (Chars × Chars)
  | [] | '\n' :: _ => none
  | '\\' :: '/' :: s => (patternText listed s).map fun (u, rest) => ('/' :: u, rest)
  | '\\' :: c :: s => (patternText listed s).map fun (u, rest) => ('\\' :: c :: u, rest)
  | '[' :: ']' :: s =>
    if listed then (patternText true (']' :: s)).map fun (u, rest) => ('[' :: u, rest)
    else (patternText true s).map fun (u, rest) => ('[' :: ']' :: u, rest)
  | '/' :: s =>
    if listed then (patternText true s).map fun (u, rest) => ('/' :: u, rest) else some ([], s)
  | c :: s =>
    let listed' := if c = '[' then true else if c = ']' then false else listed
    (patternText listed' s).map fun (u, rest) => (c :: u, rest)
termination_by s => s.length

/-- How a name is read before what follows it. -/
def nameKind (s rest : Chars) : TokenKind :=
  let name := String.ofList s
  if words.contains name then .word name
  else if builtins.contains name then .builtin name
  else if rest.head? = some '(' then .call s
  else .name s

/-- What is wrong with a program, and the line in which that shows. -/
structure Fault where
  line : Nat
  message : Chars
  /-- The line is told by its number alone. -/
  brief : Bool := false

/-- A fault as it is told. -/
def Fault.told (f : Fault) : Chars :=
  (if f.brief then [] else txt "line ") ++ Chars.ofNat f.line ++ txt ": " ++ f.message

/-- The token at the start of a text that begins in a line, and what follows it. -/
def token? (line : Nat) (divides : Bool) (s : Chars) : Except Fault (TokenKind × Chars) :=
  match s with
  | [] => .ok (.newline, [])
  | c :: r =>
    if c = '\n' then .ok (.newline, r)
    else if c = '"' then
      match quotedText (r.length + 1) r with
      | some (t, rest) => .ok (.text t, rest)
      | none => .error
          { line
            message := txt "runaway string constant \"" ++ (r.take 10).takeWhile (· != '\n') ++
              txt " ..." }
    else if c.isDigit || (c = '.' && (r.head?.map Char.isDigit).getD false) then
      let (x, n) := Numeral.nearestAt s
      .ok (.number x, s.drop n)
    else if c.isAlpha || c = '_' then
      let name := s.takeWhile fun d => d.isAlphanum || d = '_'
      .ok (nameKind name (s.drop name.length), s.drop name.length)
    else if c = '/' && !divides then
      match patternText false r with
      | some (t, rest) => .ok (.pattern t, rest)
      | none => .error
          { line, message := txt "runaway regular expression /" ++
              (r.take 10).takeWhile (· != '\n') ++ txt " ..." }
    else match longMarks.find? fun m => m.toList.isPrefixOf s with
      | some m => .ok (.mark m, s.drop 2)
      | none =>
        if shortMarks.contains c then .ok (.mark (String.singleton c), r)
        else .error
          { line, message := txt "unexpected character '" ++ [c] ++ ['\''], brief := true }

/-- Without blanks, comments and escaped line breaks at the start; how many lines these were. -/
def skipBlank : (lines : Nat) → Chars → Nat × Chars
  | n, ' ' :: s | n, '\t' :: s | n, '\r' :: s => skipBlank n s
  | n, '\\' :: '\n' :: s => skipBlank (n + 1) s
  | n, '\\' :: '\r' :: '\n' :: s => skipBlank (n + 1) s
  | n, s => (n, s)

def withoutComment (s : Chars) : Chars :=
  if s.head? = some '#' then s.dropWhile (· != '\n') else s

/-- The tokens of a text. -/
def tokensFrom (divides : Bool) (line : Nat) : (fuel : Nat) → Chars → Except Fault (List Token)
  | 0, _ => .ok []
  | fuel + 1, s =>
    let (skipped, s) := skipBlank 0 s
    let line := line + skipped
    match withoutComment s with
    | [] => .ok []
    | s =>
      match token? line divides s with
      | .error fault => .error fault
      | .ok (kind, rest) =>
        let next := match kind with
          | .newline => line + 1
          | _ => line
        (tokensFrom kind.endsOperand next fuel rest).map ({ kind, line } :: ·)

def tokens (s : Chars) : Except Fault (List Token) :=
  tokensFrom false 1 (s.length + 1) s

end Conformance.Host.Awk
