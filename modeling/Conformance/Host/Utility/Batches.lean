import Conformance.Host.Utility.Commands
import Conformance.Host.Utility.Expression

/-!
# Commands made from input

`xargs` makes commands from the words of its input, all in one or some in each.
-/
namespace Conformance.Host.Utility

open Shell

/-- The words of a text by lines; quotes and backslashes keep blanks inside of words, and a line
goes on after a blank at its end. The quote that is not closed otherwise, after what came before. -/
def inputLines (word : Option Chars) (line : List Chars) (blank : Bool) (quote : Option Char) :
    Chars → List (List Chars) × Option Char
  | [] =>
    let line := line ++ word.toList.map List.reverse
    if quote.isSome then ([line.dropLast], quote) else ([line], none)
  | c :: s =>
    match quote with
    | some q =>
      if c = q then inputLines word line false none s
      else if c = '\n' then ([line], some q)
      else inputLines (some (c :: word.getD [])) line false quote s
    | none =>
      if c = '\'' || c = '"' then inputLines (some (word.getD [])) line false (some c) s
      else if c = '\n' && !(blank && !line.isEmpty) then
        let line := line ++ word.toList.map List.reverse
        let (rest, fault) := inputLines none [] false none s
        (if line.isEmpty then rest else line :: rest, fault)
      else if isSpace c && c != '\x0b' && c != '\x0c' && c != '\r' then
        inputLines none (line ++ word.toList.map List.reverse) (c != '\n') none s
      else
        match c, s with
        | '\\', d :: s => inputLines (some (d :: word.getD [])) line false none s
        | c, s => inputLines (some (c :: word.getD [])) line false none s

/-- A line as one word, without blanks before it, quotes and backslashes. -/
def wholeWord (quote : Option Char) : Chars → Chars × Option Char
  | [] => ([], quote)
  | c :: s =>
    match quote with
    | some q =>
      if c = q then wholeWord none s
      else
        let (rest, fault) := wholeWord quote s
        (c :: rest, fault)
    | none =>
      if c = '\'' || c = '"' then wholeWord (some c) s
      else
        match c, s with
        | '\\', d :: s =>
          let (rest, fault) := wholeWord none s
          (d :: rest, fault)
        | c, s =>
          let (rest, fault) := wholeWord none s
          (c :: rest, fault)

/-- Parts of a list of some length. -/
def groupsOf {α : Type} (size : Nat) : (fuel : Nat) → List α → List (List α)
  | 0, _ | _, [] => []
  | fuel + 1, items => items.take size :: groupsOf size fuel (items.drop size)

/-- A word with each appearance of a mark replaced. -/
def replaceMark (mark value : Chars) : (fuel : Nat) → Chars → Chars
  | 0, s => s
  | _, [] => []
  | fuel + 1, c :: s =>
    if !mark.isEmpty && mark.isPrefixOf (c :: s) then
      value ++ replaceMark mark value fuel ((c :: s).drop mark.length)
    else c :: replaceMark mark value fuel s

/-- How the words of the input are made into commands. -/
structure Batches where
  size : Option Nat := none
  lines : Option Nat := none
  mark : Option Chars := none
  /-- What ends the words, if it is not blanks and lines. -/
  ending : Option Char := none
  /-- The word at which the input ends. -/
  last : Option Chars := none
  command : List Chars := []

namespace Batches

/-- The words of a text, by lines, and the quote in it that is not closed. -/
def words (b : Batches) (text : Chars) : List (List Chars) × Option Char :=
  match b.ending, b.mark with
  | some c, _ =>
    let parts := Text.splitOn (· == c) text
    ((if parts.getLast? = some [] then parts.dropLast else parts).map ([·]), none)
  | none, some _ =>
    let items := ((bareLines text).map (·.dropWhile isSpace)).filter (!·.isEmpty)
    let read := items.map (wholeWord none)
    ((read.takeWhile (·.2.isNone)).map fun r => [r.1], read.findSome? (·.2))
  | none, none =>
    let (lines, fault) := inputLines none [] false none text
    match b.last with
    | none => (lines, fault)
    | some word =>
      if lines.any (·.contains word) then
        let before := lines.takeWhile (!·.contains word)
        let ended := (lines.find? (·.contains word)).getD []
        (before ++ [ended.takeWhile (· != word)], none)
      else (lines, fault)

/-- The commands that words make. -/
def commands (b : Batches) (skipsEmpty : Bool) (lines : List (List Chars)) : List (List Chars) :=
  let all := lines.flatten
  match b.mark with
  | some mark =>
    all.map fun word => b.command.map fun w => replaceMark mark word (w.length + 1) w
  | none =>
    if all.isEmpty then (if skipsEmpty then [] else [b.command])
    else
      let groups := match b.lines, b.size with
        | some n, _ =>
          let filled := lines.filter fun (words : List Chars) => !words.isEmpty
          (groupsOf n filled.length filled).map List.flatten
        | none, some n => groupsOf n all.length all
        | none, none => [all]
      groups.map (b.command ++ ·)

end Batches

def xargsOptions : OptionTable where
  letters := txt "0rtxpo"
  valued := txt "nLIdEPsa"
  attached := txt "ile"
  long := [(txt "null", '0'), (txt "no-run-if-empty", 'r'), (txt "verbose", 't'),
    (txt "exit", 'x'), (txt "max-args", 'n'), (txt "max-lines", 'l'), (txt "replace", 'i'),
    (txt "delimiter", 'd'), (txt "max-procs", 'P'), (txt "max-chars", 's'), (txt "arg-file", 'a'),
    (txt "eof", 'e')]
  leading := true

/-- Why options do not say how commands are made. -/
inductive BatchFault
  | number (s : Chars) (option : Char)
  | zero (option : Char)
  | ending (s : Chars)

def BatchFault.message : BatchFault → Chars
  | number s option => txt "invalid number \"" ++ s ++ txt "\" for -" ++ [option] ++ txt " option"
  | zero option => txt "value 0 for -" ++ [option] ++ txt " option should be >= 1"
  | ending s =>
    txt "Invalid input delimiter specification " ++ s ++
      txt ": the delimiter must be either a single character or an escape sequence starting " ++
      txt "with \\."

/-- How commands are made, as options say. -/
def Batches.ofOptions (p : Parsed) : Except BatchFault Batches := do
  let number (c : Char) : Except BatchFault (Option Nat) :=
    match p.value? c with
    | none => .ok none
    | some s =>
      match Chars.nat? s with
      | none => .error (.number s c)
      | some 0 => .error (.zero c)
      | some n => .ok (some n)
  let lines ← match p.value? 'l' with
    | some [] => .ok (some 1)
    | some s => .ok (Chars.nat? s)
    | none => number 'L'
  let replaced := (p.value? 'i').map fun s => if s.isEmpty then txt "\x7b\x7d" else s
  let ending ← match p.value? 'd' with
    | none => .ok (if p.has '0' then some '\x00' else none)
    | some [c] => .ok (some c)
    | some ['\\', c] => .ok (if c = '0' then some '\x00' else escapedChar? c <|> some c)
    | some s => .error (.ending s)
  let size ← number 'n'
  return {
    size, lines, ending
    mark := if lastOf p (txt "niI") = some 'n' then none else p.value? 'I' <|> replaced
    last := p.value? 'E'
    command := if p.operands.isEmpty then [txt "echo"] else p.operands }

/-- Runs commands, of which each is shown if that is asked for. -/
def runBatches (start : Start) (shown feeds : Bool) :
    (status : Nat) → List (List Chars) → Program
  | status, [] => return status
  | status, words :: more => do
    let name := words.head?.getD []
    if shown then complain (Chars.join [' '] (words.map quotedIfNeeded) ++ ['\n'])
    withProgram name name fun launch => do
      let e ← Signal.awaitEnd do
        if !feeds then connect 0 (← openNew {})
        startAs start words launch
      match e with
      | .code 0 => runBatches start shown feeds status more
      | .code 255 =>
        problem (name ++ txt ": exited with status 255; aborting")
        return 124
      | .signal n =>
        problem (name ++ txt ": terminated by signal " ++ Chars.ofNat n)
        return 125
      | _ => runBatches start shown feeds 123 more

/-- The text from which commands are made. -/
def batchText (p : Parsed) : Act (Except Chars Chars) := do
  match p.value? 'a' with
  | none => return .ok (← readAll 0)
  | some name =>
    let s ← supplyOf name
    match s.tail with
    | .broken e =>
      return .error (txt "Cannot open input file " ++ cited name ++ txt ": " ++ e.toList)
    | _ =>
      awaitTail s
      return .ok s.content

/-- Runs commands made from the words of the input. -/
def xargs (start : Start) : Program :=
  withOptions xargsOptions 1 fun p => do
    match Batches.ofOptions p with
    | .error (.ending s) =>
      problem (BatchFault.ending s).message
      return 1
    | .error f => misuse f.message
    | .ok b =>
      match ← batchText p with
      | .error message =>
        problem message
        return 1
      | .ok text =>
        let (lines, fault) := b.words text
        let commands := b.commands (p.has 'r' || fault.isSome) lines
        match fault with
        | none => runBatches start (p.has 't') (p.has 'a') 0 commands
        | some c =>
          let _ ← runBatches start (p.has 't') (p.has 'a') 0 commands
          problem (txt "unmatched " ++ txt (if c = '"' then "double" else "single") ++
            txt " quote; by default quotes are special to xargs unless you use the -0 option")
          return 1

end Conformance.Host.Utility
