import Conformance.Host.Attributes
import Conformance.Host.Shell.Pattern
import Conformance.Host.Utility.Changes
import Conformance.Host.Utility.Expression
import Conformance.Host.Utility.Order

/-!
# What two inputs have in common

`diff` shows the lines to be changed to make the one input the other, and `comm` the lines of sorted
inputs in three columns.
-/
namespace Conformance.Host.Utility

/-! ## `diff` -/

/-- A line as it is compared. -/
def comparedLine (p : Parsed) (line : Chars) : Chars :=
  let line := if p.has 'J' && (txt "\r\n").isSuffixOf line then
      line.take (line.length - 2) ++ ['\n'] else line
  let folded := if p.has 'i' then line.map Char.toLower else line
  if p.has 'w' then folded.filter (!isSpace ·)
  else if p.has 'b' then squeezed (Text.dropEndWhile isSpace folded)
  else if p.has 'Z' then Text.dropEndWhile isSpace folded
  else folded
where
  /-- With each run of blanks as one. -/
  squeezed : Chars → Chars
    | [] => []
    | c :: s =>
      if isSpace c && s.head?.any isSpace then squeezed s
      else (if isSpace c then ' ' else c) :: squeezed s

/-- The changes between two texts. -/
def textChanges (p : Parsed) (old new : Chars) : List LineChange :=
  let olds := Chars.lines old
  let news := Chars.lines new
  let same (x y : Chars) : Bool := comparedLine p x == comparedLine p y
  let rows := (commonTable same news olds).toArray.map List.toArray
  let found := edits same (fun i j => (rows.getD i #[]).getD j 0) 0 0 olds news
  let changes := changesOf ⟨0, 0, [], []⟩ (LineEdit.settled same (2 * found.length + 2) found)
  let passed := (p.options.filter (·.1 == 'I')).filterMap fun o =>
    (Regex.read { extended := false, lenient := true } o.2).toOption
  let isPassed (line : Chars) : Bool :=
    (p.has 'B' && line == ['\n']) ||
      passed.any fun r => (r.find? [] (Chars.withoutNewline line)).isSome
  changes.filter fun c => (c.removed ++ c.added).any (!isPassed ·)

/-- How changes are shown. -/
inductive ChangeStyle
  | plain
  | unified
  | context
  | editor
  | counted
deriving DecidableEq

/-- The styles that options ask for; that a file is told to differ goes with any of them. -/
def changeStyles (p : Parsed) : List ChangeStyle :=
  p.options.filterMap fun (c, _) =>
    match c with
    | 'u' | 'U' => some .unified
    | 'c' | 'C' => some .context
    | 'e' => some .editor
    | 'n' => some .counted
    | 'A' => some .plain
    | _ => none

/-- How many lines are shown around changes: the most that any option asks for. -/
def contextOf (p : Parsed) : Nat :=
  let asked := p.options.filterMap fun (c, value) =>
    if c = 'U' || c = 'C' || ((c = 'u' || c = 'c') && !value.isEmpty) then Chars.nat? value
    else if c = 'u' || c = 'c' then some 3 else none
  asked.foldl max 0

/-- The value of an option that is no number of lines, if there is one. -/
def contextFault? (p : Parsed) : Option Chars :=
  (p.options.find? fun (c, value) =>
    ((c = 'U' || c = 'C') || ((c = 'u' || c = 'c') && !value.isEmpty)) &&
      (Chars.nat? value).isNone).map (·.2)

/-- A text with blanks in place of tabs. -/
def withoutTabs (s : Chars) : Chars :=
  (s.foldl (fun (shown, column) c =>
    match c with
    | '\t' =>
      let gap := 8 - column % 8
      (shown ++ List.replicate gap ' ', column + gap)
    | '\n' => (shown ++ [c], 0)
    | c => (shown ++ [c], column + 1)) (([] : Chars), 0)).1

/-- Changes in the style that is asked for; `titles` stand before those that have context. -/
def changesShown (p : Parsed) (titles : Chars × Chars) (olds news : List Chars)
    (changes : List LineChange) : Chars :=
  let context := contextOf p
  let groups := nearChanges context changes
  match (changeStyles p).head?.getD .plain with
  | .plain =>
    let expanded (line : Chars) : Chars := if p.has 't' then withoutTabs line else line
    changes.flatMap fun c =>
      LineChange.shown (if p.has 'T' then '\t' else ' ')
        { c with removed := c.removed.map expanded, added := c.added.map expanded }
  | .unified =>
    txt "--- " ++ titles.1 ++ txt "\n+++ " ++ titles.2 ++ ['\n'] ++
      groups.flatMap (unifiedGroup context olds)
  | .context =>
    txt "*** " ++ titles.1 ++ txt "\n--- " ++ titles.2 ++ ['\n'] ++
      groups.flatMap (contextGroup context olds news)
  | .editor => editorScript changes
  | .counted => countedSteps changes

/-- A text that is compared, with its name and date. -/
structure DatedText where
  name : Chars
  text : Chars
  date : Date

/-- The name of a text in front of changes. -/
def DatedText.title (d : DatedText) (style : ChangeStyle) : Chars :=
  d.name ++ '\t' :: d.date.shown
    (txt (if style = .context then "%a %b %e %H:%M:%S %Y" else "%Y-%m-%d %H:%M:%S.%N %z"))

/-- The difference of two texts, as it is shown; whether there is one. -/
def differenceShown (p : Parsed) (old new : DatedText) : Bool × Chars :=
  let changes := if old.text = new.text then [] else textChanges p old.text new.text
  let isBinary := !p.has 'a' && (old.text.contains '\x00' || new.text.contains '\x00')
  let pair := old.name ++ txt " and " ++ new.name
  if isBinary && old.text ≠ new.text then (true, txt "Binary files " ++ pair ++ txt " differ\n")
  else if changes.isEmpty then
    (false, if p.has 's' then txt "Files " ++ pair ++ txt " are identical\n" else [])
  else if p.has 'q' then (true, txt "Files " ++ pair ++ txt " differ\n")
  else
    let labels := (p.options.filter (·.1 == 'L')).map (·.2)
    let style := (changeStyles p).head?.getD .plain
    let titles := (labels[0]?.getD (old.title style), labels[1]?.getD (new.title style))
    (true, changesShown p titles (Chars.lines old.text) (Chars.lines new.text) changes)

def diffOptions : OptionTable where
  letters := txt "qsiwbBZraNdenptTEHAGJR"
  valued := txt "UCLxXIFSWKMQ"
  attached := txt "ucO"
  optional := txt "uc"
  long := [(txt "brief", 'q'), (txt "report-identical-files", 's'), (txt "unified", 'u'),
    (txt "context", 'c'), (txt "ed", 'e'), (txt "rcs", 'n'), (txt "ignore-case", 'i'),
    (txt "ignore-all-space", 'w'), (txt "ignore-space-change", 'b'),
    (txt "ignore-blank-lines", 'B'), (txt "ignore-trailing-space", 'Z'),
    (txt "ignore-matching-lines", 'I'), (txt "recursive", 'r'), (txt "text", 'a'),
    (txt "new-file", 'N'), (txt "label", 'L'), (txt "normal", 'A'), (txt "minimal", 'd'),
    (txt "initial-tab", 'T'), (txt "expand-tabs", 't'), (txt "exclude", 'x'),
    (txt "exclude-from", 'X'), (txt "strip-trailing-cr", 'J'), (txt "speed-large-files", 'H'),
    (txt "color", 'O'), (txt "ignore-tab-expansion", 'E'), (txt "show-c-function", 'p'),
    (txt "show-function-line", 'F'), (txt "no-dereference", 'R'), (txt "starting-file", 'S'),
    (txt "horizon-lines", 'K'), (txt "tabsize", 'M'), (txt "palette", 'Q'), (txt "width", 'W'),
    (txt "no-ignore-file-name-case", 'G')]

/-- Complains of a file that cannot be compared. -/
def incomparable (name : Chars) (reason : String) : Act Nat := do
  problem (name ++ txt ": " ++ reason.toList)
  return 2

/-- Shows the difference of two files. -/
def diffFiles (p : Parsed) (heading : Bool) (a b : Chars) : Act Nat := do
  let contentOf (name : Chars) : Act (Except String Chars) := do
    let s ← if name = ['-'] then drain 0 else supplyOf name
    match s.tail with
    | .broken e => if p.has 'N' then return .ok [] else return .error e
    | _ =>
      awaitTail s
      return .ok s.content
  match ← contentOf a, ← contentOf b with
  | .ok old, .ok new =>
    let now ← currentDate
    let v ← view
    let dated (name text : Chars) : DatedText :=
      ⟨name, text, ((v.attributes? .target (Chars.toPath name)).toOption.map (·.date)).getD now⟩
    let (differs, shown) := differenceShown p (dated a old) (dated b new)
    let given := (← self).args.filter (!p.operands.contains ·)
    let words := txt "diff" :: (given ++ [a, b]).map quotedIfNeeded
    let title := if heading && differs && !p.has 'q' then Chars.join [' '] words ++ ['\n'] else []
    emit (title ++ shown)
    return if differs then 1 else 0
  | .error e, .error f => let _ ← incomparable a e; incomparable b f
  | .error e, _ => incomparable a e
  | _, .error e => incomparable b e

/-- Shows the differences of what stands in two folders. -/
def diffFolders (p : Parsed) : (depth : Nat) → (a b : Chars) → Act Nat
  | 0, _, _ => return 0
  | depth + 1, a, b => do
    let t ← files
    let namesAt (s : Chars) : List Chars :=
      match t.find .target (Chars.toPath s) with
      | .ok (.taken loc .folder) => (t.namesIn loc).map Chars.ofText
      | _ => []
    let isPassed (name : Chars) : Bool :=
      p.options.any fun o =>
        o.1 == 'x' && Shell.fits (Shell.patternOf (o.2.map (⟨·, false⟩))) name
    let all := (((namesAt a ++ namesAt b).eraseDups).filter (!isPassed ·)).mergeSort charsLe
    let statuses ← all.mapM fun n => do
      let left := a ++ '/' :: n
      let right := b ++ '/' :: n
      let only (folder : Chars) : Act Nat := do
        emit (txt "Only in " ++ folder ++ txt ": " ++ n ++ ['\n'])
        return 1
      match t.isFolder (Chars.toPath left), t.isFolder (Chars.toPath right) with
      | true, true =>
        if p.has 'r' then diffFolders p depth left right
        else
          emit (txt "Common subdirectories: " ++ left ++ txt " and " ++ right ++ ['\n'])
          return 0
      | _, _ =>
        if !(namesAt b).contains n && !p.has 'N' then only a
        else if !(namesAt a).contains n && !p.has 'N' then only b
        else diffFiles p true left right
    return statuses.foldl max 0

def diff : Program := do
  match diffOptions.parse (← self).args with
  | .error message => misuseNamed message
  | .ok p =>
    if let some value := contextFault? p then
      return ← misuseNamed (txt "invalid context length '" ++ value ++ ['\''])
    if 1 < (changeStyles p).eraseDups.length then
      return ← misuseNamed (txt "conflicting output style options")
    match p.operands with
    | [] | [_] =>
      let q ← self
      misuseNamed (txt "missing operand after '" ++ q.args.getLast?.getD q.name ++ ['\''])
    | [a, b] =>
      let t ← files
      match t.isFolder (Chars.toPath a), t.isFolder (Chars.toPath b) with
      | true, true => diffFolders p (t.entries.length + 1) a b
      | true, false => diffFiles p false (a ++ '/' :: lastName b) b
      | false, true => diffFiles p false a (b ++ '/' :: lastName a)
      | false, false => diffFiles p false a b
    | _ :: _ :: extra :: _ => misuseNamed (txt "extra operand '" ++ extra ++ ['\''])
where
  lastName (s : Chars) : Chars :=
    (s.reverse.takeWhile (· != '/')).reverse

/-! ## `comm` -/

/-- What is found in two inputs: a line of one of them or of both, in the column of a number, or
that an input is out of order. -/
inductive ColumnFinding
  | line (column : Nat) (text : Chars)
  | disorder (input : Nat)

/-- When the order of the inputs is looked at. -/
inductive OrderCheck
  | never
  /-- As soon as a line was found in one input only. -/
  | lax
  /-- From the start, and nothing is shown after a fault. -/
  | strict
deriving DecidableEq

/-- A part of an input that was not looked at, and the line before it. -/
structure SortedRest where
  last : Option Chars := none
  lines : List Chars

/-- After its next line. -/
def SortedRest.next (r : SortedRest) : SortedRest where
  last := r.lines.head?
  lines := r.lines.drop 1

/-- Whether the lines about the end of what was read are out of order: the one that was taken and
the one after it, or at the end the one before it. -/
def SortedRest.isDisordered (r : SortedRest) : Bool :=
  match r.last, r.lines with
  | _, x :: y :: _ => !charsLe x y
  | some x, [y] => !charsLe x y
  | _, _ => false

/-- What two sorted inputs hold, in order. `unpaired` tells that a line stood in one only. -/
def columnFindings (check : OrderCheck) :
    (fuel : Nat) → (unpaired : Bool) → SortedRest → SortedRest → List ColumnFinding
  | 0, _, _, _ => []
  | fuel + 1, unpaired, r, q =>
    let step (column : Nat) (text : Chars) (ofFirst ofSecond : Bool) : List ColumnFinding :=
      let unpaired := unpaired || column != 3
      let looks := check = .strict || (check = .lax && unpaired)
      let faults := (if looks && ofFirst && r.isDisordered then [.disorder 1] else []) ++
        (if looks && ofSecond && q.isDisordered then [.disorder 2] else [])
      if check = .strict && !faults.isEmpty then .line column text :: faults.take 1
      else
        .line column text :: (faults ++
          columnFindings check fuel unpaired (if ofFirst then r.next else r)
            (if ofSecond then q.next else q))
    match r.lines, q.lines with
    | [], [] => []
    | x :: _, y :: _ =>
      if x = y then step 3 x true true
      else if charsLe x y then step 1 x true false
      else step 2 y false true
    | x :: _, [] => step 1 x true false
    | [], y :: _ => step 2 y false true

def comm : Program :=
  withOptions
    { letters := txt "123zCNT", valued := ['d']
      long := [(txt "check-order", 'C'), (txt "nocheck-order", 'N'), (txt "total", 'T'),
        (txt "output-delimiter", 'd'), (txt "zero-terminated", 'z')] } 1 fun p => do
    match p.operands with
    | [] => misuse (txt "missing operand")
    | [a] => misuse (txt "missing operand after " ++ cited a)
    | [a, b] =>
      let (old, failed) ← gather [a] unreadable
      if failed ≠ 0 then return 1
      let (new, failed) ← gather [b] unreadable
      if failed ≠ 0 then return 1
      let olds := recordsOf (p.has 'z') old
      let news := recordsOf (p.has 'z') new
      let mark := (p.value? 'd').getD ['\t']
      let check : OrderCheck := if p.has 'C' then .strict else if p.has 'N' then .never else .lax
      let found := columnFindings check (olds.length + news.length + 1) false { lines := olds }
        { lines := news }
      let start (column : Nat) : Chars :=
        (if 1 < column && !p.has '1' then mark else []) ++
          (if 2 < column && !p.has '2' then mark else [])
      let ending : Char := if p.has 'z' then '\x00' else '\n'
      let rec tell (told : List Nat) : List ColumnFinding → Program
        | [] => return if told.isEmpty then 0 else 1
        | .line column text :: more => do
          if !p.has ((Chars.ofNat column).head?.getD '1') then
            emit (start column ++ text ++ [ending])
          tell told more
        | .disorder n :: more => do
          if !told.contains n then
            problem (txt "file " ++ Chars.ofNat n ++ txt " is not in sorted order")
          tell (n :: told) more
      let status ← tell [] found
      if status ≠ 0 && check = .strict then return status
      let count (column : Nat) : Chars :=
        Chars.ofNat (found.filter fun
          | .line c _ => c == column
          | .disorder _ => false).length
      if p.has 'T' then emit (Chars.join mark [count 1, count 2, count 3, txt "total"] ++ [ending])
      if status ≠ 0 then problem (txt "input is not in sorted order")
      return status
    | _ :: _ :: extra :: _ => misuse (txt "extra operand " ++ cited extra)

end Conformance.Host.Utility
