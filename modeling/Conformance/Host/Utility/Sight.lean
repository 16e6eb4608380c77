import Conformance.Host.Utility.ListStyle

/-!
# Files that a search comes to

What is known of a file that a search has come to, in a format with a letter for each part of it.
-/
namespace Conformance.Host.Utility

/-- A file that a search has come to. -/
structure Sight where
  /-- The path at which the search began. -/
  root : Chars
  path : Chars
  depth : Nat
  attributes : Attributes

def Sight.name (s : Sight) : Chars :=
  baseName s.path

def Sight.node (s : Sight) : Node :=
  s.attributes.node

/-- The letter of a kind of file. -/
def kindLetter : Node → Char
  | .file _ _ | .program _ => 'f'
  | .folder => 'd'
  | .link _ => 'l'
  | .device _ => 'c'

/-- The path below the one at which the search began. -/
def Sight.below (s : Sight) : Chars :=
  (s.path.drop s.root.length).dropWhile (· == '/')

/-- The folder that holds a file, as the path says. -/
def Sight.folder (s : Sight) : Chars :=
  if s.path.contains '/' then folderName s.path else ['.']

/-- The letter of the kind of what a link leads to. -/
def Sight.targetLetter (v : FileView) (s : Sight) : Char :=
  match s.node with
  | .link _ =>
    match v.attributes? .target (Chars.toPath s.path) with
    | .ok a => kindLetter a.node
    | .error .missing => 'N'
    | .error _ => 'L'
  | node => kindLetter node

/-- A date as a letter asks for it; seconds have a fraction. -/
def dateField (d : Date) (c : Char) : Chars :=
  d.shown (match c with
    | '@' => txt "%s.%N0"
    | 'S' => txt "%S.%N0"
    | 'T' | 'X' => txt "%H:%M:%S.%N0"
    | '+' => txt "%Y-%m-%d+%H:%M:%S.%N0"
    | c => ['%', c])

/-- The letters of a format that ask for a date, which another letter follows. -/
def dateLetters : List Char := ['A', 'B', 'C', 'T']

/-- What a letter of a format stands for. -/
def Sight.field? (v : FileView) (s : Sight) (style : StatStyle) (c : Char) : Option Chars :=
  let a := s.attributes
  let text (t : Chars) : Option Chars := some (style.text t)
  match c with
  | 'p' => text s.path
  | 'f' => text s.name
  | 'h' => text s.folder
  | 'H' => text s.root
  | 'P' => text s.below
  | 'd' => some (style.number s.depth)
  | 's' => text (Chars.ofNat a.size)
  | 'b' => text (Chars.ofNat (ListStyle.bytesOfBlocks a / 512))
  | 'k' => text (Chars.ofNat (ListStyle.bytesOfBlocks a / 1024))
  | 'y' => text [kindLetter a.node]
  | 'Y' => text [s.targetLetter v]
  | 'm' =>
    some (style.fill true
      ((if style.flags.contains '#' then ['0'] else []) ++ Chars.digits 8 a.mode))
  | 'M' => text a.modeLetters
  | 'l' =>
    match a.node with
    | .link target => text (Chars.ofText target.text)
    | _ => text []
  | 'u' | 'g' => text (txt "root")
  | 'U' | 'G' => text ['0']
  | 'n' => text (Chars.ofNat a.names)
  | 'i' => text (Chars.ofNat (a.number v))
  | 'D' => text (txt "2049")
  | 'F' => text (txt "ext4")
  | 'S' => text ['1']
  | 'a' | 'c' | 't' => text (a.date.shown (txt "%a %b %e %H:%M:%S.%N0 %Y"))
  | _ => none

/-- A directive of a format behind its mark: how it is shown, its letter, and what follows. -/
def directive? (s : Chars) : Option (StatStyle × Char × Chars) :=
  let flags := s.takeWhile fun c => "-+ #0".toList.contains c
  let rest := s.drop flags.length
  let width := rest.takeWhile Char.isDigit
  let rest := rest.drop width.length
  let digits := match rest with
    | '.' :: r => some (r.takeWhile Char.isDigit)
    | _ => none
  match rest.drop ((digits.map fun ds => ds.length + 1).getD 0) with
  | c :: rest =>
    some ({ flags, width := Chars.natOfDigits width, places := digits.map Chars.nat? }, c, rest)
  | [] => none

/-- What an escape of a format stands for, and what follows it; a format may end at one. -/
def formatEscape (s : Chars) : Option (Option Chars × Chars) :=
  match s with
  | [] => none
  | 'c' :: _ => some (none, [])
  | 'b' :: more => some (some ['\x08'], more)
  | '\\' :: more => some (some ['\\'], more)
  | c :: more =>
    let digits := ((c :: more).take 3).takeWhile ModeStep.isOctalDigit
    if digits.isEmpty then (escapedChar? c).map fun d => (some [d], more)
    else
      some (some [Char.ofNat (ModeStep.octal digits % 256)], (c :: more).drop digits.length)

/-- A format filled for a file. -/
def Sight.filled (v : FileView) (s : Sight) : (fuel : Nat) → Chars → Chars
  | 0, _ | _, [] => []
  | fuel + 1, '\\' :: more =>
    match formatEscape more with
    | none => '\\' :: s.filled v fuel more
    | some (none, _) => []
    | some (some t, more) => t ++ s.filled v fuel more
  | fuel + 1, '%' :: '%' :: more => '%' :: s.filled v fuel more
  | fuel + 1, '%' :: more =>
    match directive? more with
    | none => '%' :: s.filled v fuel more
    | some (style, c, rest) =>
      match dateLetters.contains c, rest with
      | true, d :: rest => style.text (dateField s.attributes.date d) ++ s.filled v fuel rest
      | _, _ =>
        match s.field? v style c with
        | some t => t ++ s.filled v fuel rest
        | none => '%' :: s.filled v fuel more
  | fuel + 1, c :: more => c :: s.filled v fuel more

/-- The warnings about a format; nothing if it ends too early. -/
def formatWarnings : (fuel : Nat) → Chars → Option (List Chars)
  | 0, _ | _, [] => some []
  | fuel + 1, '\\' :: more =>
    match formatEscape more, more with
    | some (none, _), _ => some []
    | some (some _, rest), _ => formatWarnings fuel rest
    | none, [] => some [txt "escape \x60\\' followed by nothing at all"]
    | none, c :: rest =>
      (formatWarnings fuel rest).map ((txt "unrecognized escape \x60\\" ++ [c, '\'']) :: ·)
  | fuel + 1, '%' :: '%' :: more => formatWarnings fuel more
  | fuel + 1, '%' :: more =>
    match directive? more with
    | none => none
    | some (_, c, rest) =>
      match dateLetters.contains c, rest with
      | true, _ :: rest => formatWarnings fuel rest
      | true, [] =>
        some [txt "format directive \x60%" ++ c :: txt "' should be followed by another character"]
      | false, _ =>
        (formatWarnings fuel rest).map fun more =>
          if "pfhHPdsbkyYmMlugUGniDFSactZ".toList.contains c then more
          else (txt "unrecognized format directive \x60%" ++ [c, '\'']) :: more
  | fuel + 1, _ :: more => formatWarnings fuel more

/-- All that is known of a file, in a line. -/
def Sight.told (v : FileView) (now : Date) (s : Sight) : Chars :=
  let a := s.attributes
  let l : ListStyle :=
    { arrangement := .long, names := .escaped, width := none, tabs := 8, ending := '\n'
      showsSize := true, showsNumber := true, marks := [], hasOwner := true, hasGroup := true
      hasAuthor := false, numeric := false, sizeUnits := .every 1 [], blockUnits := .every 1024 []
      dates := (txt "%b %e  %Y", txt "%b %e %H:%M") }
  let target := match a.node with
    | .link target => txt " -> " ++ l.name (Chars.ofText target.text)
    | _ => []
  padLeft 9 (Chars.ofNat (a.number v)) ++ ' ' :: padLeft 6 (l.blocks a) ++ ' ' ::
    a.modeLetters ++ ' ' :: padLeft 3 (Chars.ofNat a.names) ++ txt " root     root     " ++
    padLeft 8 (l.size a) ++ ' ' :: l.date now a.date ++ ' ' :: l.name s.path ++ target ++ ['\n']

end Conformance.Host.Utility
