import Conformance.Host.Attributes
import Conformance.Host.Utility.Folders
import Conformance.Host.Utility.Format

/-!
# What is told of a file

`stat` shows what is known of files, each part by a letter of a format.
-/
namespace Conformance.Host.Utility

/-- A name, and behind it what a link leads to. -/
def namedWithTarget (name : Chars) : Node → Chars
  | .link target => quoted name ++ txt " -> " ++ quoted (Chars.ofText target.text)
  | _ => quoted name

/-- A date to the last digit that is kept. -/
def fullDate : Chars :=
  txt "%Y-%m-%d %H:%M:%S.%N %z"

/-- The part of a file's kind in its mode. -/
def kindBits (node : Node) : Nat :=
  match node with
  | .folder => 0o040000
  | .link _ => 0o120000
  | .device _ => 0o020000
  | .file _ _ | .program _ => 0o100000

/-- How many blocks of 512 bytes a file takes. -/
def blocksOfSize (a : Attributes) : Nat :=
  match a.node with
  | .link _ | .device _ => 0
  | _ => (a.size + 4095) / 4096 * 8

/-- How a part of a format is shown. -/
structure StatStyle where
  flags : Chars
  width : Nat
  /-- The digits that are shown of a fraction. -/
  places : Option (Option Nat)

namespace StatStyle

def fill (s : StatStyle) (isNumber : Bool) (text : Chars) : Chars :=
  let gap := s.width - text.length
  if s.flags.contains '-' then text ++ List.replicate gap ' '
  else List.replicate gap (if isNumber && s.flags.contains '0' then '0' else ' ') ++ text

def text (s : StatStyle) (t : Chars) : Chars :=
  s.fill false (match s.places with
    | some n => t.take (n.getD 0)
    | none => t)

def number (s : StatStyle) (n : Nat) : Chars :=
  s.fill true (Chars.ofNat n)

/-- The seconds of a date, and as many digits of its fraction as are asked for. -/
def seconds (s : StatStyle) (d : Date) : Chars :=
  let whole := d.shown (txt "%s")
  s.fill true (match s.places with
    | none => whole
    | some places =>
      let digits := (d.shown (txt "%N")).take (places.getD 9)
      if digits.isEmpty then whole else whole ++ '.' :: digits)

end StatStyle

/-- What a letter of a format stands for. -/
def statField (v : FileView) (name : Chars) (a : Attributes) (s : StatStyle) (c : Char) : Chars :=
  match c with
  | 'n' => s.text name
  | 'N' => s.text (namedWithTarget name a.node)
  | 's' => s.number a.size
  | 'a' =>
    s.fill true ((if s.flags.contains '#' then ['0'] else []) ++ Chars.digits 8 a.mode)
  | 'A' => s.text a.modeLetters
  | 'f' => s.fill true (Chars.digits 16 (kindBits a.node + a.mode))
  | 'F' => s.text a.kind.toList
  | 'u' | 'g' | 't' | 'T' => s.number 0
  | 'U' | 'G' => s.text (txt "root")
  | 'h' => s.number a.names
  | 'i' => s.number (a.number v)
  | 'b' => s.number (blocksOfSize a)
  | 'B' => s.number 512
  | 'o' => s.number 4096
  | 'd' => s.number 2049
  | 'D' => s.text (txt "801")
  | 'm' => s.text ['/']
  | 'x' | 'y' | 'z' | 'w' => s.text (a.date.shown fullDate)
  | 'X' | 'Y' | 'Z' | 'W' => s.seconds a.date
  | '%' => ['%']
  | _ => ['?']

/-- A format filled for a file; the part that is none, if there is one. -/
def statText (v : FileView) (name : Chars) (a : Attributes) : (fuel : Nat) → Chars →
    Except Chars Chars
  | 0, _ | _, [] => .ok []
  | fuel + 1, '%' :: s =>
    let flags := s.takeWhile fun c => "'-+ #0I".toList.contains c
    let rest := s.drop flags.length
    let width := rest.takeWhile Char.isDigit
    let rest := rest.drop width.length
    let digits := match rest with
      | '.' :: r => some (r.takeWhile Char.isDigit)
      | _ => none
    let rest := rest.drop ((digits.map fun ds => ds.length + 1).getD 0)
    let style : StatStyle :=
      { flags, width := Chars.natOfDigits width, places := digits.map Chars.nat? }
    let directive := '%' :: s.take (s.length - rest.length)
    match rest with
    | [] => if directive = ['%'] then .ok ['%'] else .error directive
    | c :: rest =>
      (statText v name a fuel rest).map (statField v name a style c ++ ·)
  | fuel + 1, c :: s => (statText v name a fuel s).map (c :: ·)

/-- A format with the escapes behind its backslashes; what is none is told. -/
def statEscapes : (fuel : Nat) → Chars → Act Chars
  | 0, _ | _, [] => return []
  | _ + 1, ['\\'] => do
    problem (txt "warning: backslash at end of format")
    return ['\\']
  | fuel + 1, '\\' :: c :: s => do
    let digits := ((c :: s).take 3).takeWhile ModeStep.isOctalDigit
    let hex := (s.take 2).takeWhile fun d => (hexDigitValue d).isSome
    if !digits.isEmpty then
      let rest ← statEscapes fuel ((c :: s).drop digits.length)
      return Char.ofNat (ModeStep.octal digits % 256) :: rest
    else if c = 'x' && !hex.isEmpty then
      let n := hex.foldl (fun n d => 16 * n + (hexDigitValue d).getD 0) 0
      return Char.ofNat n :: (← statEscapes fuel (s.drop hex.length))
    else
      match escaped? c with
      | some d => return d :: (← statEscapes fuel s)
      | none =>
        problem (txt "warning: unrecognized escape '\\" ++ [c, '\''])
        return c :: (← statEscapes fuel s)
  | fuel + 1, c :: s => return c :: (← statEscapes fuel s)
where
  escaped? (c : Char) : Option Char :=
    match c with
    | '"' | '\\' => some c
    | 'b' => some '\x08'
    | 'e' => some '\x1b'
    | c => escapedChar? c

/-- All that is known, in several lines. -/
def statReport : Chars :=
  txt "  File: %N\n  Size: %-10s\tBlocks: %-10b IO Block: %-6o %F\n" ++
    txt "Device: 8,1\tInode: %-10i  Links: %h\n" ++
    txt "Access: (0%a/%10A)  Uid: (    0/    root)   Gid: (    0/    root)\n" ++
    txt "Access: %x\nModify: %y\nChange: %z\n Birth: %w\n"

def statOptions : OptionTable where
  letters := txt "Lft"
  valued := txt "cpK"
  long := [(txt "format", 'c'), (txt "printf", 'p'), (txt "dereference", 'L'),
    (txt "file-system", 'f'), (txt "terse", 't'), (txt "cached", 'K')]

def stat : Program :=
  withOptions statOptions 1 fun p => do
    if p.operands.isEmpty then return ← misuse (txt "missing operand")
    let format ← match (p.options.filter fun o => o.1 = 'c' || o.1 = 'p').getLast? with
      | some ('p', s) => statEscapes (s.length + 1) s
      | some (_, s) => pure (s ++ ['\n'])
      | none =>
        pure (if p.has 't' then txt "%n %s %b %f %u %g %D %i %h %t %T %X %Y %Z %W %o\n"
          else statReport)
    let rec go (status : Nat) : List Chars → Program
      | [] => return status
      | s :: more => do
        let v ← view
        match v.attributes? (if p.has 'L' then .target else .entry) (Chars.toPath s) with
        | .error e =>
          problem (wish "cannot statx" s ++ txt ": " ++ e.words.toList)
          go 1 more
        | .ok a =>
          match statText v s a (format.length + 1) format with
          | .ok text =>
            emit text
            go status more
          | .error directive =>
            problem (cited directive ++ txt ": invalid directive")
            return 1
    go 0 p.operands

end Conformance.Host.Utility
