import Conformance.Proofs.Annotated.Cases
import Conformance.Proofs.Files.Descent
import Conformance.Selection

/-!
# The files that a selection leads to

A selected path leads to itself, if it is a file, or to the regular files below it that no scenario
names as its input. A selection that loads gives the cases of these files, each file with what it
yields under the path by which it was found.
-/
namespace Conformance

namespace FileTree

variable {t : FileTree}

/-- Where following all links leads to a folder, leaving a link at the end as it is leads to the
folder or to such a link. -/
theorem followFrom_entry {w u : Waypoint} {loc : Location} (hw : Way t.get? .target w u)
    (he : Ends t.get? .target u (.taken loc .folder)) :
    t.followFrom .entry w = .ok (.taken loc .folder) ∨
      ∃ l target, t.followFrom .entry w = .ok (.taken l (.link target)) := by
  induction hw with
  | done w =>
    cases he with
    | taken hn _ => exact .inl (followFrom_ends (.taken hn fun _ _ => rfl))
  | stride hs _ ih =>
    -- Every stride but over a link at the end is made for both aims.
    have hgo : ∀ {w v : Waypoint}, Stride t.get? .entry w v →
        (t.followFrom .entry v = .ok (.taken loc .folder) ∨
          ∃ l target, t.followFrom .entry v = .ok (.taken l (.link target))) →
        t.followFrom .entry w = .ok (.taken loc .folder) ∨
          ∃ l target, t.followFrom .entry w = .ok (.taken l (.link target)) := by
      intro w v hstride h
      rwa [followFrom_stride hstride]
    cases hs with
    | here hf => exact hgo (.here hf) (ih he)
    | parent hf => exact hgo (.parent hf) (ih he)
    | down hf hp _ hn hl => exact hgo (.down hf hp rfl hn hl) (ih he)
    | @link slash links l name names target hf hp _ hn _ =>
      by_cases hk : (names.isEmpty && Aim.entry.keepsLink slash) = true
      · obtain ⟨hnil, hkeeps⟩ := Bool.and_eq_true_iff.mp hk
        obtain rfl := List.isEmpty_iff.mp hnil
        exact .inr ⟨_, target, followFrom_ends (.kept hf hp rfl hn hkeeps)⟩
      · exact hgo (.link hf hp rfl hn (Bool.of_not_eq_true hk)) (ih he)

theorem isFolder_iff {p : Path} :
    t.isFolder p = true ↔ ∃ loc, t.find .target p = .ok (.taken loc .folder) := by
  rw [isFolder, node?, beq_iff_eq]
  split
  next loc node h => simp [h]
  next h => simpa using fun loc => h loc .folder

/-- A walk from a folder meets the regular files below it. -/
theorem walk_folder {root : Path} {loc : Location}
    (h : t.find .target root = .ok (.taken loc .folder)) :
    t.walk root = .ok (t.filesUnder root loc) := by
  obtain ⟨hp, u, hw, he⟩ := find_eq_ok_iff.mp h
  have hentry : t.find .entry root = t.followFrom .entry (t.outset root) := by
    rw [find, if_neg (by simpa using hp.no_nul), if_neg hp.nonempty, if_neg hp.fits]
    rfl
  rw [walk, hentry]
  rcases followFrom_entry hw he with hf | ⟨l, target, hl⟩
  · rw [hf]
  · rw [hl, h]

theorem mem_filesUnder {root p : Path} {loc : Location} :
    p ∈ t.filesUnder root loc ↔
      ∃ names node, (names, node) ∈ t.below loc ∧ isRegular node = true ∧
        descend root names = p := by
  simp only [filesUnder, List.mem_map, List.mem_mergeSort, List.mem_filter, Prod.exists]
  constructor
  · rintro ⟨_, ⟨names, node, ⟨hbelow, hregular⟩, rfl⟩, hp⟩
    exact ⟨names, node, hbelow, hregular, hp⟩
  · rintro ⟨names, node, hbelow, hregular, hp⟩
    exact ⟨_, ⟨names, node, ⟨hbelow, hregular⟩, rfl⟩, hp⟩

end FileTree

namespace Discovery

/-- A file is found by a path from a selected one: it is the selected one, or it lies below the
selected folder and no scenario of a file there names it as its input. -/
inductive Found (files : FileTree) : Path → Path → Prop
  | file {p : Path} : files.isFile p = true → Found files p p
  | below {root : Path} {loc names : Location} {node : Node} : files.isFile root = false →
      files.find .target root = .ok (.taken loc .folder) → (names, node) ∈ files.below loc →
      FileTree.isRegular node = true →
      (FileTree.descend root names).mem (inputsOf files (files.filesUnder root loc)) = false →
      Found files root (FileTree.descend root names)

/-- What a file yields that is found by a path: its cases are named after that path, one for each of
its scenarios or one for the whole file. -/
def Yields (files : FileTree) (p : Path) (part : List TestCase) : Prop :=
  ∃ content header separator body, files.readText p = .ok content ∧
    Annotated.Cut content.toList header separator body ∧
    Annotated.Accepted files p header body ∧
    Annotated.Describes files p.text p header body part

variable {files : FileTree}

theorem loadFile_eq_ok {p : Path} {part : List TestCase} :
    loadFile files p = .ok part ↔ Yields files p part := by
  rw [loadFile, Yields]
  cases files.readText p with
  | error e => simp
  | ok content => simp [Annotated.parse_eq_ok]

theorem loadFiles_eq_ok {found : List Path} {cases : List TestCase} :
    loadFiles files found = .ok cases ↔
      ∃ parts, List.Forall₂ (Yields files) found parts ∧ parts.flatten = cases := by
  induction found generalizing cases with
  | nil => simp [loadFiles, eq_comm]
  | cons p found ih =>
    rw [loadFiles]
    simp only [List.forall₂_cons_left_iff, ← loadFile_eq_ok]
    cases loadFile files p with
    | error fault => simp
    | ok part =>
      simp only [map_eq_ok, ih, Except.ok.injEq]
      constructor
      · rintro ⟨others, ⟨parts, hparts, rfl⟩, rfl⟩
        exact ⟨part :: parts, ⟨part, parts, rfl, hparts, rfl⟩, rfl⟩
      · rintro ⟨_, ⟨_, parts, rfl, hparts, rfl⟩, rfl⟩
        exact ⟨parts.flatten, ⟨parts, hparts, rfl⟩, rfl⟩

/-- From a selected folder are found the files of a walk but for those that are inputs. -/
theorem found_folder_iff {path p : Path} {loc : Location} (h : files.isFile path = false)
    (hloc : files.find .target path = .ok (.taken loc .folder)) :
    Found files path p ↔ p ∈ files.filesUnder path loc ∧
      p.mem (inputsOf files (files.filesUnder path loc)) = false := by
  rw [FileTree.mem_filesUnder]
  constructor
  · intro hfound
    cases hfound with
    | file htrue => cases h.symm.trans htrue
    | below _ hloc' hbelow hregular hinput =>
      obtain ⟨rfl, -⟩ := Spot.taken.inj (Except.ok.inj (hloc.symm.trans hloc'))
      exact ⟨⟨_, _, hbelow, hregular, rfl⟩, hinput⟩
  · rintro ⟨⟨names, node, hbelow, hregular, rfl⟩, hinput⟩
    exact .below h hloc hbelow hregular hinput

end Discovery
end Conformance
