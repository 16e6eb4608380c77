import Conformance.Path
import Conformance.Text.Utf8

/-!
# File trees

A tree is a table from locations to what has a name there. A location is the list of names from the
root; the root itself is a folder and has no entry. A file is known by a number, under which the
tree keeps what it holds: several names may stand for one file, and a file that has lost its names
can still be read and written by its number. Paths that are not absolute start at `here`.
-/
namespace Conformance

/-- Names from the root down. -/
abbrev Location := List String

/-- The number of a file, by whatever name it goes. -/
abbrev FileId := Nat

/-- What a file holds, and its mode: the sum of what is permitted to its owner, to its group and to
all. -/
structure FileData where
  content : Bytes := []
  mode : Nat
deriving DecidableEq, Repr, Inhabited

/-- What a name stands for. An installed program is known by its name, a device by its own. -/
inductive FileEntry
  | folder
  | file (id : FileId)
  | link (target : Path)
  | program (name : String)
  | device (name : String)
deriving DecidableEq, Repr

/-- What stands at a location, a file with its content and mode. -/
inductive Node
  | folder
  | file (content : Bytes) (mode : Nat)
  | link (target : Path)
  | program (name : String)
  | device (name : String)
deriving DecidableEq, Repr

namespace Node

/-- A new file's mode: its owner may read and write it, all others may read it. -/
def plainMode : Nat := 0o644

/-- The mode of a new file, of which a mask takes something away. -/
def newMode (mask : Nat) : Nat :=
  0o666 - (0o666 &&& mask)

/-- A file that is no program. -/
def plain (content : Bytes) : Node :=
  .file content plainMode

/-- Whether a mode lets anyone run a file. -/
def mayRun (mode : Nat) : Bool :=
  mode % 2 = 1 || mode / 8 % 2 = 1 || mode / 64 % 2 = 1

end Node

structure FileTree where
  entries : List (Location × FileEntry) := []
  /-- What the files hold, each at the place that is its number. -/
  held : Array FileData := #[]
  here : Location := []
  /-- No name stands for a file that there never was. -/
  known : ∀ e ∈ entries, ∀ id, e.2 = .file id → id < held.size := by simp
deriving Repr

namespace FileTree

/-- What a file holds; one that there never was is empty. -/
def dataOf (t : FileTree) (id : FileId) : FileData :=
  t.held[id]?.getD { mode := Node.plainMode }

/-- What an entry looks like. -/
def nodeOf (t : FileTree) : FileEntry → Node
  | .folder => .folder
  | .file id => .file (t.dataOf id).content (t.dataOf id).mode
  | .link target => .link target
  | .program name => .program name
  | .device name => .device name

/-- The entry of a location. -/
def entryAt? (t : FileTree) (loc : Location) : Option FileEntry :=
  if loc = [] then some .folder else t.entries.lookup loc

def get? (t : FileTree) (loc : Location) : Option Node :=
  (t.entryAt? loc).map t.nodeOf

/-- The file that has a name at `loc`. -/
def fileAt? (t : FileTree) (loc : Location) : Option FileId :=
  match t.entryAt? loc with
  | some (.file id) => some id
  | _ => none

/-- With something else in a file, under all its names. -/
def change (t : FileTree) (id : FileId) (d : FileData) : FileTree :=
  { t with
    held := t.held.setIfInBounds id d
    known := by simpa using t.known }

/-- With one more file, which has no name yet. -/
def extend (t : FileTree) (d : FileData) : FileTree :=
  { t with
    held := t.held.push d
    known := fun e he id h => by
      rw [Array.size_push]
      exact Nat.lt_succ_of_lt (t.known e he id h) }

/-- With an entry at `loc`, in place of any other one. -/
def enter (t : FileTree) (loc : Location) (e : FileEntry)
    (h : ∀ id, e = .file id → id < t.held.size := by simp) : FileTree :=
  { t with
    entries := (loc, e) :: t.entries.filter (·.1 != loc)
    known := by
      intro x hx id hid
      rcases List.mem_cons.mp hx with rfl | hx
      · exact h id hid
      · exact t.known x (List.mem_filter.mp hx).1 id hid }

/-- With a new file at `loc`, in place of anything that stood there. -/
def create (t : FileTree) (loc : Location) (d : FileData) : FileTree :=
  (t.extend d).enter loc (.file t.held.size) (by simp [extend])

/-- With `node` at `loc`. A file that stands there is changed if `node` is a file, and anything else
gives way. -/
def put (t : FileTree) (loc : Location) : Node → FileTree
  | .file content mode =>
    match t.fileAt? loc with
    | some id => t.change id { content, mode }
    | none => t.create loc { content, mode }
  | .folder => t.enter loc .folder
  | .link target => t.enter loc (.link target)
  | .program name => t.enter loc (.program name)
  | .device name => t.enter loc (.device name)

/-- Without the entries that fail a test. -/
def keeping (t : FileTree) (p : Location × FileEntry → Bool) : FileTree :=
  { t with
    entries := t.entries.filter p
    known := fun e he => t.known e (List.mem_filter.mp he).1 }

/-- Without what stands at `loc`. -/
def erase (t : FileTree) (loc : Location) : FileTree :=
  t.keeping fun e => e.1 != loc

/-- Whether `loc` is `top` or lies below it. -/
def within (top loc : Location) : Bool :=
  top.isPrefixOf loc

/-- Without `top` and everything below it. -/
def eraseAll (t : FileTree) (top : Location) : FileTree :=
  t.keeping fun e => !within top e.1

/-- Without everything below `top`. -/
def eraseBelow (t : FileTree) (top : Location) : FileTree :=
  t.keeping fun e => e.1 == top || !within top e.1

/-- A file that an entry stands for is one that there is. -/
theorem known_of_entryAt? (t : FileTree) {loc : Location} {id : FileId}
    (h : t.entryAt? loc = some (.file id)) : id < t.held.size := by
  unfold entryAt? at h
  split at h
  · simp at h
  · obtain ⟨before, after, he, -⟩ := List.lookup_eq_some_iff.mp h
    exact t.known (loc, .file id) (by simp [he]) id rfl

/-- With one more name for what stands at `old`, if that is no folder. -/
def alsoNamed (t : FileTree) (old new : Location) : FileTree :=
  match h : t.entryAt? old with
  | none | some .folder => t
  | some e => t.enter new e fun id he => t.known_of_entryAt? (by rw [h, he])

/-- With what stands at `old` and below it at `new`, in place of anything that stood there. -/
def moved (t : FileTree) (old new : Location) : FileTree :=
  let t' := t.eraseAll new
  { t' with
    entries := t'.entries.map fun (loc, e) =>
      (if within old loc then new ++ loc.drop old.length else loc, e)
    known := by
      intro x hx id hid
      obtain ⟨e, he, rfl⟩ := List.mem_map.mp hx
      exact t'.known e he id hid }

/-- The locations of a file. -/
def placesOf (t : FileTree) (id : FileId) : List Location :=
  t.entries.filterMap fun e => if e.2 = .file id then some e.1 else none

/-- The locations of the file that stands at `loc`; of anything else, just `loc`. -/
def namesOf (t : FileTree) (loc : Location) : List Location :=
  match t.fileAt? loc with
  | none => [loc]
  | some id => t.placesOf id

/-- The names directly below a location. -/
def namesIn (t : FileTree) (loc : Location) : List String :=
  t.entries.filterMap fun e =>
    match e.1.getLast? with
    | some name => if e.1.dropLast = loc then some name else none
    | none => none

/-- Names below `top`, with what stands there. -/
def below (t : FileTree) (top : Location) : List (Location × Node) :=
  t.entries.filterMap fun e =>
    if within top e.1 && e.1 != top then some (e.1.drop top.length, t.nodeOf e.2) else none

theorem lookup_filter_ne {α : Type} (entries : List (Location × α)) {loc other : Location}
    (h : other ≠ loc) :
    (entries.filter (·.1 != loc)).lookup other = entries.lookup other := by
  induction entries with
  | nil => rfl
  | cons e es ih =>
    obtain ⟨key, node⟩ := e
    by_cases hk : key = loc
    · subst hk
      have : (other == key) = false := by simpa using h
      simp [List.lookup_cons, this, ih]
    · by_cases ho : other = key
      · subst ho
        simp [hk]
      · have : (other == key) = false := by simpa using ho
        simp [List.lookup_cons, hk, this, ih]

@[simp] theorem entryAt?_root (t : FileTree) : t.entryAt? [] = some .folder := rfl

theorem entryAt?_enter_self (t : FileTree) {loc : Location} (h : loc ≠ []) (e : FileEntry)
    (he : ∀ id, e = .file id → id < t.held.size) : (t.enter loc e he).entryAt? loc = some e := by
  simp [entryAt?, enter, h]

theorem entryAt?_enter_other (t : FileTree) {loc other : Location} (h : other ≠ loc)
    (e : FileEntry) (he : ∀ id, e = .file id → id < t.held.size) :
    (t.enter loc e he).entryAt? other = t.entryAt? other := by
  have hb : (other == loc) = false := by simpa using h
  simp [entryAt?, enter, List.lookup_cons, hb, lookup_filter_ne _ h]

@[simp] theorem entryAt?_extend (t : FileTree) (d : FileData) (loc : Location) :
    (t.extend d).entryAt? loc = t.entryAt? loc := rfl

@[simp] theorem entryAt?_change (t : FileTree) (id : FileId) (d : FileData) (loc : Location) :
    (t.change id d).entryAt? loc = t.entryAt? loc := rfl

theorem entryAt?_erase_self (t : FileTree) {loc : Location} (h : loc ≠ []) :
    (t.erase loc).entryAt? loc = none := by
  have hn : ∀ es : List (Location × FileEntry), (es.filter (·.1 != loc)).lookup loc = none := by
    intro es
    refine List.lookup_eq_none_iff.mpr fun e he => ?_
    have hne : (e.1 != loc) = true := (List.mem_filter.mp he).2
    simpa using Ne.symm (bne_iff_ne.mp hne)
  simp only [entryAt?, erase, keeping, h, if_false, hn]

theorem entryAt?_erase_other (t : FileTree) {loc other : Location} (h : other ≠ loc) :
    (t.erase loc).entryAt? other = t.entryAt? other := by
  simp [entryAt?, erase, keeping, lookup_filter_ne _ h]

@[simp] theorem here_put (t : FileTree) (loc : Location) (node : Node) :
    (t.put loc node).here = t.here := by
  cases node with
  | file content mode => unfold put; cases t.fileAt? loc <;> rfl
  | folder | link | program | device => rfl

theorem fileAt?_eq_some {t : FileTree} {loc : Location} {id : FileId} :
    t.fileAt? loc = some id ↔ t.entryAt? loc = some (.file id) := by
  unfold fileAt?
  split <;> simp_all

@[simp] theorem dataOf_enter (t : FileTree) (loc : Location) (e : FileEntry)
    (he : ∀ id, e = .file id → id < t.held.size) : (t.enter loc e he).dataOf = t.dataOf := rfl

@[simp] theorem dataOf_erase (t : FileTree) (loc : Location) : (t.erase loc).dataOf = t.dataOf := rfl

theorem dataOf_extend_self (t : FileTree) (d : FileData) : (t.extend d).dataOf t.held.size = d := by
  simp [dataOf, extend]

theorem dataOf_extend_other (t : FileTree) (d : FileData) {id : FileId} (h : id < t.held.size) :
    (t.extend d).dataOf id = t.dataOf id := by
  simp [dataOf, extend, Array.getElem?_push, Nat.ne_of_lt h]

theorem dataOf_change_self (t : FileTree) (d : FileData) {id : FileId} (h : id < t.held.size) :
    (t.change id d).dataOf id = d := by
  simp [dataOf, change, h]

theorem dataOf_change_other (t : FileTree) (d : FileData) {id other : FileId} (h : other ≠ id) :
    (t.change id d).dataOf other = t.dataOf other := by
  simp [dataOf, change, Ne.symm h]

/-- What an entry looks like hangs on what its file holds. -/
theorem nodeOf_congr {t t' : FileTree} {e : FileEntry}
    (h : ∀ id, e = .file id → t'.dataOf id = t.dataOf id) : t'.nodeOf e = t.nodeOf e := by
  cases e with
  | file id => simp [nodeOf, h id rfl]
  | folder | link | program | device => rfl

theorem get?_erase_self (t : FileTree) {loc : Location} (h : loc ≠ []) :
    (t.erase loc).get? loc = none := by
  simp [get?, entryAt?_erase_self t h]

theorem get?_erase_other (t : FileTree) {loc other : Location} (h : other ≠ loc) :
    (t.erase loc).get? other = t.get? other := by
  rw [get?, get?, entryAt?_erase_other t h]
  cases t.entryAt? other with
  | none => rfl
  | some e => exact congrArg some (nodeOf_congr fun _ _ => rfl)

theorem get?_put_folder_self (t : FileTree) (loc : Location) :
    (t.put loc .folder).get? loc = some .folder := by
  by_cases h : loc = []
  · subst h; rfl
  · rw [get?, put, entryAt?_enter_self t h]; rfl

theorem get?_put_folder_other (t : FileTree) {loc other : Location} (h : other ≠ loc) :
    (t.put loc .folder).get? other = t.get? other := by
  rw [get?, get?, put, entryAt?_enter_other t h]
  cases t.entryAt? other with
  | none => rfl
  | some e => exact congrArg some (nodeOf_congr fun _ _ => rfl)

theorem put_file_of_file (t : FileTree) {loc : Location} {id : FileId}
    (h : t.entryAt? loc = some (.file id)) (content : Bytes) (mode : Nat) :
    t.put loc (.file content mode) = t.change id { content, mode } := by
  simp [put, fileAt?_eq_some.mpr h]

theorem put_file_of_none (t : FileTree) {loc : Location} (h : t.fileAt? loc = none)
    (content : Bytes) (mode : Nat) :
    t.put loc (.file content mode) = t.create loc { content, mode } := by
  simp [put, h]

/-- A file that is put somewhere is found there. -/
theorem get?_put_file_self (t : FileTree) {loc : Location} (h : loc ≠ []) (content : Bytes)
    (mode : Nat) : (t.put loc (.file content mode)).get? loc = some (.file content mode) := by
  cases hf : t.fileAt? loc with
  | some id =>
    rw [fileAt?_eq_some] at hf
    rw [put_file_of_file t hf, get?, entryAt?_change, hf, Option.map_some, nodeOf,
      dataOf_change_self _ _ (t.known_of_entryAt? hf)]
  | none =>
    rw [put_file_of_none t hf, get?, create, entryAt?_enter_self _ h, Option.map_some, nodeOf,
      dataOf_enter, dataOf_extend_self]

/-- A file that is put somewhere is seen elsewhere only under its other names. -/
theorem get?_put_file_other (t : FileTree) {loc other : Location} (h : other ≠ loc)
    (content : Bytes) (mode : Nat) :
    (t.put loc (.file content mode)).get? other = t.get? other ∨
      ∃ c m, t.get? other = some (.file c m) ∧
        (t.put loc (.file content mode)).get? other = some (.file content mode) := by
  cases hf : t.fileAt? loc with
  | some id =>
    rw [fileAt?_eq_some] at hf
    rw [put_file_of_file t hf]
    by_cases ho : t.entryAt? other = some (.file id)
    · right
      refine ⟨_, _, by rw [get?, ho]; rfl, ?_⟩
      rw [get?, entryAt?_change, ho, Option.map_some, nodeOf,
        dataOf_change_self _ _ (t.known_of_entryAt? ho)]
    · left
      rw [get?, get?, entryAt?_change]
      cases he : t.entryAt? other with
      | none => rfl
      | some e =>
        refine congrArg some (nodeOf_congr fun i hi => dataOf_change_other _ _ ?_)
        rintro rfl
        exact ho (by rw [he, hi])
  | none =>
    left
    rw [put_file_of_none t hf, get?, get?, create, entryAt?_enter_other _ h, entryAt?_extend]
    cases he : t.entryAt? other with
    | none => rfl
    | some e =>
      refine congrArg some (nodeOf_congr fun i hi => ?_)
      rw [dataOf_enter, dataOf_extend_other _ _ (t.known_of_entryAt? (by rw [he, hi]))]

end FileTree
end Conformance
