import Conformance.Files.Resolve

/-!
# Reading and changing a file tree

Each change answers with the tree after it, or with the reason why nothing happened.
-/
namespace Conformance
namespace FileTree

/-- What a program's file starts with. -/
def programBytes : Bytes :=
  [0x7f, 0x45, 0x4c, 0x46]

def read (t : FileTree) (p : Path) : Except FileError Bytes :=
  match t.find .target p with
  | .error e => .error e
  | .ok (.free _) => .error .missing
  | .ok (.taken _ .folder) => .error .isFolder
  | .ok (.taken _ (.file content _)) => .ok content
  | .ok (.taken _ (.program _)) => .ok programBytes
  | .ok (.taken _ (.device _)) => .ok []
  | .ok (.taken _ (.link _)) => .error .missing

/-- The content of a file of valid UTF-8. -/
def readText (t : FileTree) (p : Path) : Except FileError String :=
  match t.read p with
  | .error e => .error e
  | .ok content =>
    match Text.decode? content with
    | some text => .ok text
    | none => .error .notText

/-- The device that has no room for anything. -/
def fullDevice : String := "full"

/-- With a file at the end of `p` that holds `content`; a file that stood there is emptied first. A
device keeps nothing. -/
def write (t : FileTree) (p : Path) (content : Bytes) : Except FileError FileTree :=
  match t.find .content p with
  | .error e => .error e
  | .ok (.free loc) => .ok (t.put loc (.plain content))
  | .ok (.taken _ .folder) => .error .isFolder
  | .ok (.taken _ (.device name)) =>
    if name = fullDevice && content ≠ [] then .error .noSpace else .ok t
  | .ok (.taken loc (.file _ mode)) => .ok (t.put loc (.file content mode))
  | .ok (.taken loc (.program _)) => .ok (t.put loc (.plain content))
  | .ok (.taken _ (.link _)) => .error .missing

/-- The file that a path leads to. -/
def fileOf? (t : FileTree) (p : Path) : Option FileId :=
  match t.find .target p with
  | .ok (.taken loc _) => t.fileAt? loc
  | _ => none

/-- Bytes with `new` in place of those from `offset` on; a gap before it is filled with zeros. -/
def overwrite (old : Bytes) (offset : Nat) (new : Bytes) : Bytes :=
  old.take offset ++ List.replicate (offset - old.length) 0 ++ new ++
    old.drop (offset + new.length)

/-- With bytes written into a file, whatever its names, from `offset` on. -/
def writeAt (t : FileTree) (id : FileId) (offset : Nat) (new : Bytes) : FileTree :=
  let d := t.dataOf id
  if new.isEmpty then t else t.change id { d with content := overwrite d.content offset new }

/-- With a link at the end of `p`, where nothing stood before. -/
def makeLink (t : FileTree) (p target : Path) : Except FileError FileTree :=
  match t.find .name p with
  | .error e => .error e
  | .ok (.free loc) => if p.endsWithSlash then .error .missing else .ok (t.put loc (.link target))
  | .ok (.taken _ _) => .error .present

/-- With a folder at the end of `p`, where nothing stood before. -/
def makeFolder (t : FileTree) (p : Path) : Except FileError FileTree :=
  match t.find .name p with
  | .error e => .error e
  | .ok (.free loc) => .ok (t.put loc .folder)
  | .ok (.taken _ _) => .error .present

/-- `makeFolder` for `p` and first for the folders above it that are missing. A folder that stands
there already is no failure; after a failure the folders made before it stay. `depth` bounds the
number of folders. -/
def makeFoldersWithin (t : FileTree) (p : Path) : (depth : Nat) → FileTree × Option FileError
  | 0 => (t, some .wholeTree)
  | depth + 1 =>
    if p.chars = [] then (t, none)
    else
      match t.makeFolder p with
      | .ok t' => (t', none)
      | .error .missing =>
        match p.parent? with
        | none => (t, some .wholeTree)
        | some above =>
          match t.makeFoldersWithin above depth with
          | (t', some e) => (t', some e)
          | (t', none) =>
            match t'.makeFolder p with
            | .ok t'' => (t'', none)
            | .error e => (t', if t'.isFolder p then none else some e)
      | .error e => (t, if t.isFolder p then none else some e)

def makeFolders (t : FileTree) (p : Path) : FileTree × Option FileError :=
  t.makeFoldersWithin p (p.chars.length + 2)

/-- Without the file or link at the end of `p`. -/
def removeFile (t : FileTree) (p : Path) : Except FileError FileTree :=
  match t.find .name p with
  | .error e => .error e
  | .ok (.free _) => .error .missing
  | .ok (.taken _ .folder) => .error .isFolder
  | .ok (.taken loc _) => if p.endsWithSlash then .error .notFolder else .ok (t.erase loc)

/-- Without the folder at the end of `p`, which has to be empty and not to be named by dots. -/
def removeEmptyFolder (t : FileTree) (p : Path) : Except FileError FileTree :=
  match t.find .name p with
  | .error e => .error e
  | .ok (.free _) => .error .missing
  | .ok (.taken loc .folder) =>
    match (steps p).getLast? with
    | some ['.'] => .error .invalid
    | some ['.', '.'] => .error .notEmpty
    | _ => if (t.below loc).isEmpty then .ok (t.erase loc) else .error .notEmpty
  | .ok (.taken _ _) => .error .notFolder

/-- Without the folder at the end of `p` and all it holds. A link is removed and its target kept. A
folder that cannot be removed by that name is emptied and stays; that it went with what it holds, as
`d/..` goes with `d`, is no failure. -/
def removeFolder (t : FileTree) (p : Path) : FileTree × Option FileError :=
  match t.find .entry p with
  | .error e => (t, some e)
  | .ok (.free _) => (t, some .missing)
  | .ok (.taken _ (.link _)) =>
    match t.removeFile p with
    | .ok t' => (t', none)
    | .error e => (t, some e)
  | .ok (.taken loc .folder) =>
    let emptied := t.eraseBelow loc
    match emptied.removeEmptyFolder p with
    | .ok t' => (t', none)
    | .error e => (emptied, if e = .missing then none else some e)
  | .ok (.taken _ _) => (t, some .notFolder)

end FileTree
end Conformance
