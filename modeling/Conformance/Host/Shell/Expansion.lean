import Conformance.Host.Shell.Arithmetic
import Conformance.Host.Shell.Pattern
import Conformance.Host.Shell.Variable
import Conformance.Host.Signal

/-!
# Expansion

What the pieces of a word stand for when a command is run. Values that were not quoted are divided
into fields, and fields with special characters are replaced by the paths of files that fit.
-/
namespace Conformance.Host.Shell

/-- What an expansion gives, character by character. -/
inductive Item
  /-- `divides` marks a character that parts fields if it is a separator. -/
  | glyph (g : Glyph) (divides : Bool)
  /-- Here is a field, even if it stays empty. -/
  | anchor
  /-- Here one field ends and another may begin. -/
  | boundary

def itemsOf (quoted divides : Bool) (s : Chars) : List Item :=
  s.map fun c => .glyph ⟨c, quoted⟩ divides

/-- An expansion that gives a text. -/
def valueItems (quoted : Bool) (s : Chars) : List Item :=
  if quoted then .anchor :: itemsOf true false s else itemsOf false true s

/-- The glyphs of items, without regard to fields. -/
def glyphsOf (items : List Item) : List Glyph :=
  items.flatMap fun
    | .glyph g _ => [g]
    | .anchor => []
    | .boundary => [⟨' ', true⟩]

def textOf (items : List Item) : Chars :=
  spelled (glyphsOf items)

/-! ## Fields -/

/-- How far a division into fields has come. -/
structure Division where
  fields : List (List Glyph) := []
  current : Option (List Glyph) := none
  /-- A field was just ended by blanks alone. -/
  blankEnd : Bool := false

namespace Division

def close (d : Division) : Division :=
  match d.current with
  | some gs => { fields := gs.reverse :: d.fields }
  | none => { d with blankEnd := false }

def step (separators : Chars) (d : Division) : Item → Division
  | .anchor => { d with current := some (d.current.getD []) }
  | .boundary => d.close
  | .glyph g divides =>
    if divides && separators.contains g.char then
      if " \t\n".toList.contains g.char then
        if d.current.isSome then { d.close with blankEnd := true } else d
      else if d.current.isSome then d.close
      else if d.blankEnd then { d with blankEnd := false }
      else { d with fields := [] :: d.fields }
    else { d with current := some (g :: d.current.getD []), blankEnd := false }

end Division

/-- The fields of an expansion. -/
def fieldsOf (separators : Chars) (items : List Item) : List (List Glyph) :=
  (items.foldl (Division.step separators) {}).close.fields.reverse

def separators : Act Chars := do
  return (← valueOf? (txt "IFS")).getD (txt " \t\n")

/-! ## Parameters -/

/-- The letters of the options that are on. -/
def shownFlags (flags : List Char) : Chars :=
  (txt "pubaCEVvxsnmiIfe").filter flags.contains

/-- The value of a parameter that has one value. -/
def parameter? (name : Chars) : Act (Option Chars) := do
  let p ← self
  match name with
  | ['#'] => return some (Chars.ofNat p.args.length)
  | ['?'] => return some (Chars.ofNat p.status)
  | ['$'] => return some (Chars.ofNat p.shell)
  | ['!'] => return p.lastJob.map Chars.ofNat
  | ['-'] => return some (shownFlags p.flags)
  | _ =>
    match Chars.nat? name with
    | some 0 => return some p.name
    | some n => return p.args[n - 1]?
    | none => valueOf? name

/-- All arguments as an expansion. -/
def argumentItems (quoted : Bool) (name : Chars) : Act (List Item) := do
  let args := (← self).args
  if quoted && name = ['*'] then
    let separator := match ← valueOf? (txt "IFS") with
      | some s => s.take 1
      | none => [' ']
    return valueItems true (Chars.join separator args)
  else
    let each := args.map (valueItems quoted)
    return (each.intersperse [.boundary]).flatten

/-! ## Homes -/

/-- The users of the host and their homes. -/
def homes : List (String × String) :=
  [("root", "/root"), ("daemon", "/usr/sbin"), ("bin", "/bin"), ("sys", "/dev"), ("sync", "/bin"),
    ("games", "/usr/games"), ("man", "/var/cache/man"), ("lp", "/var/spool/lpd"),
    ("mail", "/var/mail"), ("news", "/var/spool/news"), ("uucp", "/var/spool/uucp"),
    ("proxy", "/bin"), ("www-data", "/var/www"), ("backup", "/var/backups"),
    ("list", "/var/list"), ("irc", "/run/ircd"), ("nobody", "/nonexistent")]

/-- The home of a user; without a name, the one that a variable names. -/
def home? (user : Chars) : Act (Option Chars) := do
  if user.isEmpty then return (← valueOf? (txt "HOME")).filter (!·.isEmpty)
  else return (homes.lookup (String.ofList user)).map txt

/-- A text with the home in it that its start stands for. The name of a user goes up to a slash or
to the end, which is the end of the word if `whole` is set. -/
def withHome (whole : Bool) (s : Chars) : Act Word := do
  match s with
  | '~' :: r =>
    let user := r.takeWhile (· != '/')
    if user.length = r.length && !whole then return [.text false s]
    match ← home? user with
    | none => return [.text false s]
    | some home => return [.text true home, .text false (r.drop user.length)]
  | _ => return [.text false s]

/-- A word with the home in it that its start stands for. -/
def withHomes : Word → Act Word
  | .text false s :: ps => return (← withHome ps.isEmpty s) ++ ps
  | w => return w

/-- A value with the homes in it that its parts between colons stand for. -/
def valueHomes : (atStart : Bool) → Word → Act Word
  | _, [] => return []
  | atStart, .text false s :: ps => do
    let parts := Text.splitOn (· == ':') s
    let shown ← parts.zipIdx.mapM fun (part, i) => do
      let last := i + 1 = parts.length
      let w ← if i = 0 && !atStart then pure [Piece.text false part]
        else withHome (!last || ps.isEmpty) part
      return if i = 0 then w else .text false [':'] :: w
    return shown.flatten ++ (← valueHomes false ps)
  | _, p :: ps => return p :: (← valueHomes false ps)

section

variable (run : List Command → Act Nat)

/-- The output of a script, without the newlines at its end. -/
def outputOf (script : List Command) : Act Chars := do
  let (said, e) ← Signal.hearChild (run script)
  Signal.report e
  modifySelf fun p => { p with wordStatus := e.status }
  return Text.dropEndWhile (· == '\n') said

/-- Whether a value counts as none. -/
def countsAsNone (empty : Bool) (value : Option Chars) : Bool :=
  match value with
  | none => true
  | some s => empty && s.isEmpty

/-- What a piece stands for; `expand` gives the same for the words inside it. -/
def pieceItems (expand : Bool → Word → Act (List Item)) (inner : Bool) : Piece → Act (List Item)
  | .text quoted s =>
    return if quoted then .anchor :: itemsOf true false s else itemsOf false inner s
  | .output quoted script => do
    return valueItems quoted (← outputOf run script)
  | .number quoted e => do
    match ← evaluateArith (textOf (← expand true e)) with
    | .ok n => return valueItems quoted (Chars.ofInt n)
    | .error message => shellFault message
  | .parameter quoted name operation word => do
    if name.isEmpty then shellFault (txt "Bad substitution")
    let all := name = ['@'] || name = ['*']
    let value ←
      if all then
        let args := (← self).args
        pure (if args.isEmpty then none else some (Chars.join [' '] args))
      else parameter? name
    let present : Act (List Item) :=
      if all then argumentItems quoted name else return valueItems quoted (value.getD [])
    match operation with
    | .value =>
      if value.isNone && !all && (← self).flags.contains 'u' then
        shellFault (name ++ txt ": parameter not set")
      present
    | .length =>
      if value.isNone && !all && (← self).flags.contains 'u' then
        shellFault (name ++ txt ": parameter not set")
      let count := (← self).args.length
      return valueItems quoted (Chars.ofNat (if all then count else (value.getD []).length))
    | .default empty => if countsAsNone empty value then expand quoted word else present
    | .alternative empty => if countsAsNone empty value then return [] else expand quoted word
    | .assign empty =>
      if countsAsNone empty value then
        if !isName name then shellFault (name ++ txt ": bad variable name")
        let s := textOf (← expand quoted word)
        assignVariable name s
        return valueItems quoted s
      else present
    | .require empty =>
      if countsAsNone empty value then
        let s := textOf (← expand quoted word)
        let message :=
          if !s.isEmpty then s
          else if empty then txt "parameter not set or null" else txt "parameter not set"
        shellFault (name ++ txt ": " ++ message)
      else present
    | .dropFront longest =>
      let pattern := patternOf (glyphsOf (← expand false word))
      return valueItems quoted (dropFitting longest pattern (value.getD []))
    | .dropBack longest =>
      let pattern := patternOf (glyphsOf (← expand false word))
      return valueItems quoted (dropFittingEnd longest pattern (value.getD []))

/-- What a word stands for. `inner` marks the word of an operation, whose text divides fields. -/
def wordItems : (fuel : Nat) → (inner : Bool) → Word → Act (List Item)
  | 0, _, _ => return []
  | fuel + 1, inner, w => do
    let w ← if inner then withHomes w else pure w
    let parts ← w.mapM (pieceItems run (fun quoted w => wordItems fuel (!quoted) w) inner)
    return parts.flatten

/-- Words are not nested more deeply. -/
def wordDepth : Nat := 100

/-- The text of a document. -/
def expandDocument (w : Word) : Act Chars := do
  return textOf (← wordItems run wordDepth false w)

/-- The text of a word that is one field. -/
def expandText (w : Word) : Act Chars := do
  expandDocument run (← withHomes w)

/-- The text of a word that is assigned to a variable. -/
def expandValue (w : Word) : Act Chars := do
  expandDocument run (← valueHomes true w)

/-- The pattern that a word writes. -/
def expandPattern (w : Word) : Act (List Atom) := do
  return patternOf (glyphsOf (← wordItems run wordDepth false (← withHomes w)))

/-- The fields of a word. -/
def expandWord (w : Word) : Act (List Chars) := do
  let items ← wordItems run wordDepth false (← withHomes w)
  let fields := fieldsOf (← separators) items
  if (← self).flags.contains 'f' then return fields.map spelled
  let t ← files
  return fields.flatMap (expandPaths t)

/-- The fields of words. -/
def expandFields (words : List Word) : Act (List Chars) := do
  return (← words.mapM (expandWord run)).flatten

end

end Conformance.Host.Shell
