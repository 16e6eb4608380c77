import Conformance.Proofs.Discovery.Found
import Conformance.Proofs.Files.Spelling

/-!
# Scenario inputs among the files of a folder

The files of a folder that a scenario names as its input are no tests. They are told by their
components, in which nothing is resolved. So an input is left out if its path goes down only: then
it is spelled as the walk from the folder spells it. A relative path that goes up somewhere is taken
for no file of the walk, even if it leads to one (`inputs_left_out`).
-/
namespace Conformance

open Path (Plain Component)

namespace FileTree

variable {t : FileTree}

/-- The names of a tree are such as a folder can hold. -/
def Named (t : FileTree) : Prop :=
  ∀ e ∈ t.entries, ∀ name ∈ e.1, Plain name.toList

theorem exists_entry {loc : Location} {node : Node} (hne : loc ≠ []) (h : t.get? loc = some node) :
    ∃ entry, (loc, entry) ∈ t.entries ∧ t.nodeOf entry = node := by
  rw [get?, entryAt?, if_neg hne] at h
  obtain ⟨entry, hentry, hnode⟩ := Option.map_eq_some_iff.mp h
  obtain ⟨before, after, hentries, -⟩ := List.lookup_eq_some_iff.mp hentry
  exact ⟨entry, by simp [hentries], hnode⟩

theorem Named.plain (h : t.Named) {loc : Location} {node : Node} (hnode : t.get? loc = some node) :
    ∀ name ∈ loc, Plain name.toList := by
  by_cases hne : loc = []
  · subst hne
    exact nofun
  · obtain ⟨entry, hentry, -⟩ := exists_entry hne hnode
    exact h _ hentry

theorem descend_eq_below (root : Path) (names : Location) :
    descend root names = root.below (names.map String.toList) := by
  rw [descend, Path.below, List.foldl_map]
  simp [Path.ofChars]

theorem components_descend (root : Path) {names : Location}
    (h : ∀ name ∈ names, Plain name.toList) :
    (descend root names).components = root.components ++ names.map fun n => .name n.toList := by
  rw [descend_eq_below, Path.components_below root (by simpa using h), List.map_map]
  rfl

theorem mem_below {top names : Location} {node : Node} (hne : names ≠ [])
    (h : t.get? (top ++ names) = some node) : (names, node) ∈ t.below top := by
  obtain ⟨entry, hentry, rfl⟩ := exists_entry (by simp [hne]) h
  refine List.mem_filterMap.mpr ⟨(top ++ names, entry), hentry, ?_⟩
  simp [within, hne]

theorem place_of_below {top place names : Location} {entry : FileEntry} {node : Node}
    (h : (if within top place && place != top then
      some (place.drop top.length, t.nodeOf entry) else none) = some (names, node)) :
    place = top ++ names ∧ names ≠ [] ∧ t.nodeOf entry = node := by
  split at h
  next hwithin =>
    obtain ⟨hbegins, hne⟩ := Bool.and_eq_true_iff.mp hwithin
    obtain ⟨rest, rfl⟩ := List.isPrefixOf_iff_prefix.mp hbegins
    obtain ⟨rfl, rfl⟩ := Prod.mk.inj (Option.some.inj h)
    rw [List.drop_left]
    exact ⟨rfl, by simpa using hne, rfl⟩
  next => cases h

/-- What is met below a location has an entry there. -/
theorem exists_entry_of_mem_below {top names : Location} {node : Node}
    (h : (names, node) ∈ t.below top) :
    names ≠ [] ∧ ∃ entry, (top ++ names, entry) ∈ t.entries ∧ t.nodeOf entry = node := by
  obtain ⟨⟨place, entry⟩, hentry, hplace⟩ := List.mem_filterMap.mp h
  obtain ⟨rfl, hne, hnode⟩ := place_of_below hplace
  exact ⟨hne, entry, hentry, hnode⟩

/-- A file below a folder is met by a walk, in the folder itself or in one below it. -/
theorem exists_descend_of_mem {root p : Path} {loc : Location} (hnamed : t.Named)
    (h : p ∈ t.filesUnder root loc) :
    ∃ names last, p = descend root (names ++ [last]) ∧
      ∀ name ∈ names ++ [last], Plain name.toList := by
  obtain ⟨names, node, hbelow, -, rfl⟩ := mem_filesUnder.mp h
  obtain ⟨hne, entry, hentry, -⟩ := exists_entry_of_mem_below hbelow
  obtain ⟨init, last, rfl⟩ : ∃ init last, names = init ++ [last] :=
    ⟨_, _, (List.dropLast_concat_getLast hne).symm⟩
  exact ⟨init, last, rfl, fun name hname => hnamed _ hentry name (List.mem_append_right _ hname)⟩

end FileTree

namespace Discovery

open FileTree (descend isFile_of_folder)

variable {files : FileTree} {root f : Path} {loc : Location}

/-- A path by which an input is named as a walk from `root` names its files: it goes down only, from
the folder of its scenario or from `root`, which it begins with. -/
inductive Straight (root input : Path) : Prop
  | relative : input.isAbsolute = false → .parent ∉ input.components → Straight root input
  | absolute (names : List (List Char)) : input.isAbsolute = true →
      input.components = root.components ++ names.map .name → Straight root input

/-- A file of a folder is no test there: it has no case, and if the folder cannot be loaded that is
for another file. -/
structure LeftOut (files : FileTree) (root g : Path) : Prop where
  unfound : ¬Found files root g
  cases : ∀ cases, load files root = .ok cases → ∀ c ∈ cases, c.origin ≠ g
  fault : ∀ fault, load files root = .error fault →
    ∃ p, p ≠ g ∧ Found files root p ∧ loadFile files p = .error fault

theorem origin_of_yields {p : Path} {part : List TestCase} (h : Yields files p part) :
    ∀ c ∈ part, c.origin = p := by
  obtain ⟨content, header, separator, body, -, -, -, hdescribes⟩ := h
  cases hdescribes with
  | plain _ hshares _ _ _ =>
    intro c hc
    obtain rfl := List.mem_singleton.mp hc
    exact hshares.origin
  | scenarios _ hlines =>
    intro c hc
    obtain ⟨args, -, file, codes, input, -, hshares, -⟩ := exists_of_forall₂ hlines.flip hc
    exact hshares.origin

/-- The first file that cannot be loaded ends the loading. -/
theorem exists_of_loadFiles_error {found : List Path} {fault : Fault}
    (h : loadFiles files found = .error fault) :
    ∃ p ∈ found, loadFile files p = .error fault := by
  induction found with
  | nil => cases h
  | cons p found ih =>
    rw [loadFiles] at h
    cases hp : loadFile files p with
    | error e =>
      rw [hp] at h
      obtain rfl := Except.error.inj h
      exact ⟨p, List.mem_cons_self, hp⟩
    | ok part =>
      rw [hp] at h
      obtain ⟨q, hq, hfault⟩ := ih (map_eq_error.mp h)
      exact ⟨q, List.mem_cons_of_mem p hq, hfault⟩

/-- A folder is loaded by loading its files but for those that are inputs. -/
theorem load_folder_eq (h : files.find .target root = .ok (.taken loc .folder)) :
    load files root = loadFiles files ((files.filesUnder root loc).filter fun p =>
      !p.mem (inputsOf files (files.filesUnder root loc))) := by
  rw [load, isFile_of_folder h, if_neg Bool.false_ne_true, FileTree.isFolder_iff.mpr ⟨loc, h⟩,
    if_pos rfl, loadFolder, testFiles, FileTree.walk_folder h]

/-- A folder is loaded by loading the files that are found from it. -/
theorem load_folder (h : files.find .target root = .ok (.taken loc .folder)) :
    ∃ found, load files root = loadFiles files found ∧ ∀ p, p ∈ found ↔ Found files root p := by
  refine ⟨_, load_folder_eq h, fun p => ?_⟩
  rw [found_folder_iff (isFile_of_folder h) h, List.mem_filter, Bool.not_eq_true']

theorem leftOut_of_unfound {g : Path} (h : files.find .target root = .ok (.taken loc .folder))
    (hg : ¬Found files root g) : LeftOut files root g := by
  obtain ⟨found, hload, hfound⟩ := load_folder h
  refine ⟨hg, fun cases hcases c hc horigin => ?_, fun fault hfault => ?_⟩
  · rw [hload] at hcases
    obtain ⟨parts, hparts, rfl⟩ := loadFiles_eq_ok.mp hcases
    obtain ⟨part, hpart, hmem⟩ := List.mem_flatten.mp hc
    obtain ⟨p, hp, hyields⟩ := exists_of_forall₂ hparts.flip hpart
    obtain rfl : p = g := (origin_of_yields hyields c hmem).symm.trans horigin
    exact hg ((hfound p).mp hp)
  · rw [hload] at hfault
    obtain ⟨p, hp, hp'⟩ := exists_of_loadFiles_error hfault
    have hp'' := (hfound p).mp hp
    refine ⟨p, ?_, hp'', hp'⟩
    rintro rfl
    exact hg hp''

theorem mem_inputsOf {paths : List Path} {content : String} {h : Annotated.Header}
    {body : List Char} {s : Annotated.ScenarioPragma} (hf : f ∈ paths)
    (hread : files.readText f = .ok content)
    (hsplit : Annotated.split content.toList = .ok (h, body)) (hs : s ∈ h.scenarios) :
    Annotated.inputPath f s ∈ inputsOf files paths := by
  refine List.mem_flatMap.mpr ⟨f, hf, ?_⟩
  rw [hread]
  dsimp only
  rw [scenarioInputs, hsplit]
  exact List.mem_map_of_mem hs

/-- The input of a scenario is sought in the folder of its file. -/
theorem components_inputPath {names : Location} {last : String} {s : Annotated.ScenarioPragma}
    (hroot : root.chars ≠ []) (hplain : ∀ name ∈ names ++ [last], Plain name.toList)
    (hs : (Path.mk s.inputFile).isAbsolute = false) :
    (Annotated.inputPath (descend root (names ++ [last])) s).components =
      (descend root names).components ++ (Path.mk s.inputFile).trail := by
  obtain ⟨hnames, hlast⟩ := List.forall_mem_append.mp hplain
  have hfile : descend root (names ++ [last]) =
      (descend root names).join (.ofChars last.toList) := by
    rw [descend, List.foldl_append, Path.ofChars, String.ofList_toList]
    rfl
  have hfolder : (descend root names).chars ≠ [] := by
    rw [FileTree.descend_eq_below]
    exact Path.chars_below_ne_nil hroot (by simpa using hnames)
  have hparent := Path.components_parent_join hfolder (hlast last List.mem_cons_self)
  have hne : (descend root (names ++ [last])).parent.chars ≠ [] := by
    refine Path.chars_ne_nil ?_
    rw [hfile, hparent]
    exact Path.components_ne_nil hfolder
  rw [Annotated.inputPath, Path.components_join_relative hne hs, hfile, hparent]

theorem inputPath_of_absolute {s : Annotated.ScenarioPragma}
    (h : (Path.mk s.inputFile).isAbsolute = true) : Annotated.inputPath f s = ⟨s.inputFile⟩ := by
  rw [Annotated.inputPath, Path.join, if_pos h]

variable {s : Annotated.ScenarioPragma}

/-- The components of such an input are those of `root` and plain names. -/
theorem Straight.exists_names (h : Straight root ⟨s.inputFile⟩) (hnamed : files.Named)
    (hroot : root.chars ≠ []) (hf : f ∈ files.filesUnder root loc) :
    ∃ names : List (List Char),
      (Annotated.inputPath f s).components = root.components ++ names.map .name ∧
        ∀ name ∈ names, Plain name := by
  cases h with
  | relative hrelative hparent =>
    obtain ⟨above, last, rfl, hplain⟩ := FileTree.exists_descend_of_mem hnamed hf
    have habove := (List.forall_mem_append.mp hplain).1
    obtain ⟨down, htrail, hdown⟩ := Path.exists_names hparent
    refine ⟨above.map String.toList ++ down, ?_, ?_⟩
    · rw [components_inputPath hroot hplain hrelative, htrail,
        FileTree.components_descend root habove]
      simp [Function.comp_def]
    · rw [List.forall_mem_append]
      exact ⟨by simpa using habove, hdown⟩
  | absolute names habsolute hcomponents =>
    rw [inputPath_of_absolute habsolute]
    refine ⟨names, hcomponents, fun name hname => ?_⟩
    have hmem : .name name ∈ (Path.mk s.inputFile).components := by
      rw [hcomponents]
      exact List.mem_append_right _ (List.mem_map_of_mem hname)
    exact Path.plain_of_mem_components hmem

/-- Such an input is spelled as the walk spells the file to which it leads. -/
theorem Straight.same {names : Location} {node : Node} (h : Straight root ⟨s.inputFile⟩)
    (hnamed : files.Named) (hlinks : files.LinkFree loc)
    (hroot : files.find .target root = .ok (.taken loc .folder))
    (hf : f ∈ files.filesUnder root loc)
    (hinput : files.find .target (Annotated.inputPath f s) = .ok (.taken (loc ++ names) node)) :
    (descend root names).same (Annotated.inputPath f s) = true := by
  obtain ⟨hutterable, -⟩ := FileTree.find_eq_ok_iff.mp hroot
  obtain ⟨parts, hcomponents, hplain⟩ := h.exists_names hnamed hutterable.nonempty hf
  have hloc := FileTree.loc_of_components hroot hinput hcomponents hplain hlinks
  rw [FileTree.along, List.append_cancel_left_eq] at hloc
  rw [Path.same, beq_iff_eq, hcomponents, hloc, FileTree.descend_eq_below, List.map_map]
  simpa [Function.comp_def] using Path.components_below root hplain

/-- No other input is spelled as a file that the walk meets. -/
theorem straight_of_same {p : Path} (hnamed : files.Named) (hroot : root.chars ≠ [])
    (hf : f ∈ files.filesUnder root loc) (hp : p ∈ files.filesUnder root loc)
    (h : p.same (Annotated.inputPath f s) = true) : Straight root ⟨s.inputFile⟩ := by
  rw [Path.same, beq_iff_eq] at h
  obtain ⟨names, last, rfl, hnames⟩ := FileTree.exists_descend_of_mem hnamed hp
  rw [FileTree.components_descend root hnames] at h
  cases habsolute : (Path.mk s.inputFile).isAbsolute with
  | true =>
    rw [inputPath_of_absolute habsolute] at h
    refine .absolute ((names ++ [last]).map String.toList) habsolute ?_
    rw [← h, List.map_map]
    rfl
  | false =>
    obtain ⟨above, last', rfl, hplain⟩ := FileTree.exists_descend_of_mem hnamed hf
    rw [components_inputPath hroot hplain habsolute,
      FileTree.components_descend root (List.forall_mem_append.mp hplain).1, List.append_assoc,
      List.append_cancel_left_eq] at h
    refine .relative habsolute fun hparent => ?_
    have hmem : Component.parent ∈ (names ++ [last]).map fun n => Component.name n.toList := by
      rw [h]
      exact List.mem_append_right _ (Path.parent_mem_components.mp hparent)
    obtain ⟨_, -, hname⟩ := List.mem_map.mp hmem
    cases hname

/-- Where there are no links at all, an absolute path that never goes up begins with any folder that
is named so too. -/
theorem straight_of_absolute {input : Path} {names : Location} {node : Node}
    (hlinks : files.LinkFree []) (hroot : files.find .target root = .ok (.taken loc .folder))
    (hinput : files.find .target input = .ok (.taken (loc ++ names) node))
    (habsolute : root.isAbsolute = true) (habsolute' : input.isAbsolute = true)
    (hparent : .parent ∉ root.components) (hparent' : .parent ∉ input.components) :
    Straight root input := by
  refine .absolute (names.map String.toList) habsolute' ?_
  rw [FileTree.components_of_absolute hinput habsolute' hparent' hlinks,
    FileTree.components_of_absolute hroot habsolute hparent hlinks, List.map_append, List.map_map]
  rfl

/-- A regular file of a folder that a scenario in it names as its input is left out if it is named
straight, as an absolute path is that never goes up, if the folder is named so too and there are no
links. Where it is not named straight, no file at all is left out for that scenario. -/
theorem inputs_left_out {content : String} {h : Annotated.Header} {body : List Char}
    (hnamed : files.Named) (hlinks : files.LinkFree loc)
    (hroot : files.find .target root = .ok (.taken loc .folder))
    (hf : f ∈ files.filesUnder root loc) (hread : files.readText f = .ok content)
    (hsplit : Annotated.split content.toList = .ok (h, body)) (hs : s ∈ h.scenarios) :
    (∀ names node, FileTree.isRegular node = true →
      files.find .target (Annotated.inputPath f s) = .ok (.taken (loc ++ names) node) →
        descend root names ∈ files.filesUnder root loc ∧
          (Straight root ⟨s.inputFile⟩ → LeftOut files root (descend root names)) ∧
          (files.LinkFree [] → root.isAbsolute = true → (Path.mk s.inputFile).isAbsolute = true →
            .parent ∉ root.components → .parent ∉ (Path.mk s.inputFile).components →
            Straight root ⟨s.inputFile⟩)) ∧
      (¬Straight root ⟨s.inputFile⟩ →
        ∀ p ∈ files.filesUnder root loc, p.same (Annotated.inputPath f s) = false) := by
  obtain ⟨hutterable, -⟩ := FileTree.find_eq_ok_iff.mp hroot
  refine ⟨fun names node hregular hinput => ⟨?_, fun hstraight => ?_, ?_⟩, fun hastray p hp => ?_⟩
  · have hnode := FileTree.get?_of_find_taken hinput
    have hne : names ≠ [] := by
      rintro rfl
      rw [List.append_nil, FileTree.get?_of_find_taken hroot] at hnode
      obtain rfl := Option.some.inj hnode
      cases hregular
    exact FileTree.mem_filesUnder.mpr
      ⟨names, node, FileTree.mem_below hne hnode, hregular, rfl⟩
  · have hsame := hstraight.same hnamed hlinks hroot hf hinput
    have hmem : (descend root names).mem (inputsOf files (files.filesUnder root loc)) = true :=
      List.any_eq_true.mpr ⟨_, mem_inputsOf hf hread hsplit hs, hsame⟩
    refine leftOut_of_unfound hroot fun hfound => ?_
    have hunmentioned := ((found_folder_iff (isFile_of_folder hroot) hroot).mp hfound).2
    exact Bool.false_ne_true (hunmentioned.symm.trans hmem)
  · intro hfree hrooted habsolute hparent hparent'
    rw [inputPath_of_absolute habsolute] at hinput
    exact straight_of_absolute hfree hroot hinput hrooted habsolute hparent hparent'
  · exact Bool.of_not_eq_true fun hsame =>
      hastray (straight_of_same hnamed hutterable.nonempty hf hp hsame)

/-! ## One input, named from its folder and from one below -/

/-- A folder with an input, for which a file at some place asks by some path. -/
def suiteTree (place : Location) (input : String) : FileTree where
  entries := [(["s"], .folder), (["s", "d"], .folder), (place, .file 0), (["s", "x"], .file 1)]
  held := #[{ content := ("//scenario " ++ input ++ "\n//\nb").toUTF8.toList,
              mode := Node.plainMode },
    { content := "1\n".toUTF8.toList, mode := Node.plainMode }]

theorem linkFree_suiteTree (place : Location) (input : String) (top : Location) :
    (suiteTree place input).LinkFree top := by
  intro loc target _ hnode
  by_cases hne : loc = []
  · subst hne
    cases hnode
  · obtain ⟨entry, hentry, hlink⟩ := FileTree.exists_entry hne hnode
    simp only [suiteTree, List.mem_cons, List.not_mem_nil, or_false, Prod.mk.injEq] at hentry
    rcases hentry with ⟨-, rfl⟩ | ⟨-, rfl⟩ | ⟨-, rfl⟩ | ⟨-, rfl⟩ <;> cases hlink

theorem plain_letter {c : Char} (hs : c ≠ '/') (hd : c ≠ '.') : Plain [c] := by
  refine ⟨nofun, ?_, by simpa using hd, by simp⟩
  intro d hmem
  obtain rfl := List.mem_singleton.mp hmem
  exact beq_false_of_ne hs

theorem proper_letter {c : Char} (h : c = 's' ∨ c = 'd' ∨ c = 't' ∨ c = 'x') :
    FileTree.Proper [c] := by
  rcases h with rfl | rfl | rfl | rfl <;> exact ⟨by decide, by decide, by decide⟩

theorem named_suiteTree (input : String) {place : Location}
    (h : place = ["s", "t"] ∨ place = ["s", "d", "t"]) : (suiteTree place input).Named := by
  have hs : Plain ['s'] := plain_letter (by decide) (by decide)
  have hd : Plain ['d'] := plain_letter (by decide) (by decide)
  have ht : Plain ['t'] := plain_letter (by decide) (by decide)
  have hx : Plain ['x'] := plain_letter (by decide) (by decide)
  intro e he
  simp only [suiteTree, List.mem_cons, List.not_mem_nil, or_false] at he
  rcases h with rfl | rfl <;> rcases he with rfl | rfl | rfl | rfl <;> simp [hs, hd, ht, hx]

theorem filesUnder_of_sorted {names : List Location}
    (h : ((files.below loc).filter fun e => FileTree.isRegular e.2).map (·.1) = names)
    (hsorted : names.Pairwise fun a b => FileTree.namesLe a b = true) :
    files.filesUnder root loc = names.map (descend root) := by
  rw [FileTree.filesUnder, h, List.mergeSort_of_pairwise hsorted]

theorem find_of_way {p : Path} {node : Node} (hp : FileTree.Utterable p)
    (hnode : files.get? loc = some node)
    (hw : FileTree.Way files.get? .target (files.outset p) ⟨false, 40, loc, []⟩) :
    files.find .target p = .ok (.taken loc node) :=
  FileTree.find_eq_ok_iff.mpr ⟨hp, _, hw, .taken hnode fun _ => nofun⟩

theorem readText_of_find {p : Path} {content : Bytes} {mode : Nat} {text : String}
    (h : files.find .target p = .ok (.taken loc (.file content mode)))
    (htext : Text.decode? content = some text) : files.readText p = .ok text := by
  rw [FileTree.readText, FileTree.read, h]
  dsimp only
  rw [htext]

section
variable {place : Location} {input : String}

/-- A letter leads down where something has it as its name. -/
theorem stride_suite {links : Nat} {c : Char} {names : List (List Char)} {node : Node}
    (hc : c = 's' ∨ c = 'd' ∨ c = 't' ∨ c = 'x')
    (hloc : (suiteTree place input).get? loc = some .folder)
    (hnode : (suiteTree place input).get? (FileTree.under loc [c]) = some node) :
    FileTree.Stride (suiteTree place input).get? .target ⟨false, links, loc, [c] :: names⟩
      ⟨false, links, FileTree.under loc [c], names⟩ := by
  refine .down hloc (proper_letter hc) rfl hnode fun target hlink => ?_
  subst hlink
  exact linkFree_suiteTree place input [] _ target List.nil_prefix hnode

theorem find_suite : (suiteTree place input).find .target ⟨"s"⟩ = .ok (.taken ["s"] .folder) :=
  find_of_way ⟨by decide, by decide, by decide⟩ rfl
    (.stride (stride_suite (by decide) rfl rfl) (.done _))

theorem find_in_suite {c : Char} {node : Node} (hc : c = 't' ∨ c = 'x')
    (hnode : (suiteTree place input).get? ["s", String.ofList [c]] = some node) :
    (suiteTree place input).find .target ⟨String.ofList ['s', '/', c]⟩ =
      .ok (.taken ["s", String.ofList [c]] node) := by
  have hutterable : FileTree.Utterable ⟨String.ofList ['s', '/', c]⟩ := by
    rcases hc with rfl | rfl <;> exact ⟨by decide, by decide, by decide⟩
  have houtset : (suiteTree place input).outset ⟨String.ofList ['s', '/', c]⟩ =
      ⟨false, 40, [], [['s'], [c]]⟩ := by
    rcases hc with rfl | rfl <;> rfl
  have hletter : c = 's' ∨ c = 'd' ∨ c = 't' ∨ c = 'x' := by
    rcases hc with rfl | rfl <;> decide
  refine find_of_way hutterable hnode ?_
  rw [houtset]
  exact .stride (stride_suite (by decide) rfl rfl)
    (.stride (stride_suite hletter rfl hnode) (.done _))

end

/-! A file names its neighbour as its input. -/

theorem filesUnder_suite :
    (suiteTree ["s", "t"] "x").filesUnder ⟨"s"⟩ ["s"] = [⟨"s/t"⟩, ⟨"s/x"⟩] :=
  (filesUnder_of_sorted rfl (by decide)).trans (by decide)

theorem readText_asking :
    (suiteTree ["s", "t"] "x").readText ⟨"s/t"⟩ = .ok "//scenario x\n//\nb" :=
  readText_of_find (find_in_suite (.inl rfl) rfl) (by decide +kernel)

theorem find_asked {place : Location} {input : String}
    (h : place = ["s", "t"] ∨ place = ["s", "d", "t"]) :
    (suiteTree place input).find .target ⟨"s/x"⟩ =
      .ok (.taken ["s", "x"] (.plain "1\n".toUTF8.toList)) := by
  rcases h with rfl | rfl
  · exact find_in_suite (.inr rfl) rfl
  · exact find_in_suite (.inr rfl) rfl

theorem readText_asked {place : Location} {input : String}
    (h : place = ["s", "t"] ∨ place = ["s", "d", "t"]) :
    (suiteTree place input).readText ⟨"s/x"⟩ = .ok "1\n" :=
  readText_of_find (find_asked h) (by decide +kernel)

theorem split_asking : Annotated.split "//scenario x\n//\nb".toList =
    .ok ({ scenarios := [{ inputFile := "x", span := ⟨0, 12⟩ }] }, ['b']) := by
  decide

/-- An input beside the file that names it is left out. -/
theorem neighbour_left_out :
    LeftOut (suiteTree ["s", "t"] "x") ⟨"s"⟩ ⟨"s/x"⟩ := by
  have hpath : Annotated.inputPath ⟨"s/t"⟩ { inputFile := "x", span := ⟨0, 12⟩ } = ⟨"s/x"⟩ := by
    decide
  have hstraight : Straight ⟨"s"⟩ ⟨"x"⟩ := .relative (by decide) (by decide)
  have hwalked : ⟨"s/t"⟩ ∈ (suiteTree ["s", "t"] "x").filesUnder ⟨"s"⟩ ["s"] := by
    rw [filesUnder_suite]
    exact List.mem_cons_self
  obtain ⟨hleft, -⟩ := inputs_left_out (named_suiteTree "x" (.inl rfl))
    (linkFree_suiteTree ["s", "t"] "x" ["s"]) find_suite hwalked readText_asking split_asking
    List.mem_cons_self
  rw [hpath] at hleft
  exact (hleft ["x"] _ rfl (find_asked (.inl rfl))).2.1 hstraight

/-- That every input in a folder is left out of it fails: this one is named from a folder below. -/
theorem input_above_not_left_out :
    ¬∀ (files : FileTree) (root f : Path) (loc : Location) (content : String)
      (h : Annotated.Header) (body : List Char) (s : Annotated.ScenarioPragma) (names : Location)
      (node : Node), files.Named → files.LinkFree loc →
      files.find .target root = .ok (.taken loc .folder) → f ∈ files.filesUnder root loc →
      files.readText f = .ok content → Annotated.split content.toList = .ok (h, body) →
      s ∈ h.scenarios → FileTree.isRegular node = true →
      files.find .target (Annotated.inputPath f s) = .ok (.taken (loc ++ names) node) →
      LeftOut files root (descend root names) := by
  intro hclaim
  have hwalk : (suiteTree ["s", "d", "t"] "../x").filesUnder ⟨"s"⟩ ["s"] =
      [⟨"s/d/t"⟩, ⟨"s/x"⟩] :=
    (filesUnder_of_sorted rfl (by decide)).trans (by decide)
  have hasking : (suiteTree ["s", "d", "t"] "../x").find .target ⟨"s/d/t"⟩ =
      .ok (.taken ["s", "d", "t"] (.plain "//scenario ../x\n//\nb".toUTF8.toList)) := by
    refine find_of_way ⟨by decide, by decide, by decide⟩ rfl ?_
    show FileTree.Way _ _ ⟨false, 40, [], [['s'], ['d'], ['t']]⟩ _
    refine .stride (stride_suite (by decide) rfl rfl) ?_
    exact .stride (stride_suite (by decide) rfl rfl)
      (.stride (stride_suite (by decide) rfl rfl) (.done _))
  have hasked : (suiteTree ["s", "d", "t"] "../x").find .target ⟨"s/d/../x"⟩ =
      .ok (.taken ["s", "x"] (.plain "1\n".toUTF8.toList)) := by
    refine find_of_way ⟨by decide, by decide, by decide⟩ rfl ?_
    show FileTree.Way _ _ ⟨false, 40, [], [['s'], ['d'], ['.', '.'], ['x']]⟩ _
    refine .stride (stride_suite (by decide) rfl rfl) ?_
    refine .stride (stride_suite (by decide) rfl rfl) ?_
    exact .stride (.parent rfl) (.stride (stride_suite (by decide) rfl rfl) (.done _))
  have hread : (suiteTree ["s", "d", "t"] "../x").readText ⟨"s/d/t"⟩ =
      .ok "//scenario ../x\n//\nb" := readText_of_find hasking (by decide +kernel)
  have hsplit : Annotated.split "//scenario ../x\n//\nb".toList =
      .ok ({ scenarios := [{ inputFile := "../x", span := ⟨0, 15⟩ }] }, ['b']) := by
    decide
  have hpath : Annotated.inputPath ⟨"s/d/t"⟩ { inputFile := "../x", span := ⟨0, 15⟩ } =
      ⟨"s/d/../x"⟩ := by decide
  have hwalked : ⟨"s/d/t"⟩ ∈ (suiteTree ["s", "d", "t"] "../x").filesUnder ⟨"s"⟩ ["s"] := by
    rw [hwalk]
    exact List.mem_cons_self
  have hleft := hclaim _ _ ⟨"s/d/t"⟩ _ _ _ _ { inputFile := "../x", span := ⟨0, 15⟩ } ["x"] _
    (named_suiteTree "../x" (.inr rfl)) (linkFree_suiteTree ["s", "d", "t"] "../x" ["s"])
    find_suite hwalked hread hsplit List.mem_cons_self rfl (by rw [hpath]; exact hasked)
  -- The only input among those of the walk is spelled otherwise than the file to which it leads.
  have hinputs : inputsOf (suiteTree ["s", "d", "t"] "../x") [⟨"s/d/t"⟩, ⟨"s/x"⟩] =
      [⟨"s/d/../x"⟩] := by
    simp only [inputsOf, List.flatMap_cons, hread, readText_asked (.inr rfl)]
    decide
  refine hleft.unfound
    ((found_folder_iff (isFile_of_folder find_suite) find_suite).mpr ⟨?_, ?_⟩)
  · rw [hwalk]
    decide
  · rw [hwalk, hinputs]
    decide

end Discovery
end Conformance
