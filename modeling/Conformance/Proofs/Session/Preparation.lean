import Conformance.Proofs.Artifact.Saving
import Conformance.Proofs.Discovery.Found
import Conformance.Proofs.Files.Making
import Conformance.Proofs.Session.Outputs

/-!
# What preparing the outputs leaves

The log of an earlier run is removed, then the output folder with what it holds, and then folders are
made until the output folder is there (`prepareOutputs_eq_none`). The paths of a configuration are
checked before that and may have anything in common: a compiler or a support file that is reached past
something given up is gone (`find_of_passes`), and a log below or beside the folders that are made may
be one of them (`log_misled`). A path that goes up from a folder which was made leads to one that was
there, and that one is not emptied.
-/
namespace Conformance

open FileTree (Closed Grown Pruned ComesBy Way under)

namespace FileTree

variable {t t' : FileTree}

theorem makeFolders_of_find {p : Path} {loc : Location}
    (h : t.find .target p = .ok (.taken loc .folder)) : t.makeFolders p = (t, none) := by
  obtain ⟨hp, w, hw, he⟩ := find_eq_ok_iff.mp h
  cases he with
  | taken hf _ => exact makeFoldersWithin_present ⟨_, _, hw⟩ hf (.inr hp) _

/-- A location that a path, followed in a tree, passes: one that it comes by or one that it looks at
next. -/
def Passes (t : FileTree) (p : Path) (loc : Location) : Prop :=
  ∃ w, Way t.get? .target (t.outset p) w ∧
    (w.loc = loc ∨ ∃ name names, w.names = name :: names ∧ under w.loc name = loc)

/-- A way is open where all that it passes is unchanged. -/
theorem Way.unchanged {look look' : Location → Option Node} {w x : Waypoint}
    (h : Way look .target w x)
    (hsame : ∀ y, Way look .target w y →
      (∀ node, look y.loc = some node → look' y.loc = some node) ∧
      ∀ name names, y.names = name :: names → ∀ node, look (under y.loc name) = some node →
        look' (under y.loc name) = some node) :
    Way look' .target w x := by
  induction h with
  | done w => exact .done w
  | @stride w y x hs _ ih =>
    obtain ⟨hhere, hnext⟩ := hsame w (.done w)
    refine .stride ?_ (ih fun z hz => hsame z (.stride hs hz))
    cases hs with
    | here hf => exact .here (hhere _ hf)
    | parent hf => exact .parent (hhere _ hf)
    | down hf hp ha hn hl => exact .down (hhere _ hf) hp ha (hnext _ _ rfl _ hn) hl
    | link hf hp ha hn hk => exact .link (hhere _ hf) hp ha (hnext _ _ rfl _ hn) hk

/-- What stood somewhere, and does not stand there any more. -/
def Lost (t t' : FileTree) (loc : Location) : Prop :=
  ∃ node, t.get? loc = some node ∧ t'.get? loc ≠ some node

/-- A path that passes nothing that is lost leads where it led. -/
theorem find_of_passes (hhere : t'.here = t.here) {p : Path} {loc : Location} {node : Node}
    (h : t.find .target p = .ok (.taken loc node)) (hkept : ∀ l, t.Passes p l → ¬Lost t t' l) :
    t'.find .target p = .ok (.taken loc node) := by
  obtain ⟨hp, w, hw, he⟩ := find_eq_ok_iff.mp h
  have hstays {l : Location} {n : Node} (hl : t.Passes p l) (hn : t.get? l = some n) :
      t'.get? l = some n := not_not.mp fun hlost => hkept l hl ⟨n, hn, hlost⟩
  have hway : Way t'.get? .target (t.outset p) w := hw.unchanged fun y hy =>
    ⟨fun n hn => hstays ⟨y, hy, .inl rfl⟩ hn,
      fun name names hnames n hn => hstays ⟨y, hy, .inr ⟨name, names, hnames, rfl⟩⟩ hn⟩
  refine find_eq_ok_iff.mpr ⟨hp, w, ?_, ?_⟩
  · rw [outset, hhere]
    exact hway
  · cases he with
    | taken hn hs => exact .taken (hstays ⟨_, hw, .inl rfl⟩ hn) hs
    | kept _ _ _ _ hk => exact absurd hk (by simp [Aim.keepsLink])

end FileTree

namespace Config

variable {c : Config} {t u v : FileTree}

/-- A place that is given up: where the log's path leads, a link at its end left as it is, or what the
output folder holds. -/
def Cleared (c : Config) (t : FileTree) (loc : Location) : Prop :=
  (∃ node, t.find .name c.logFile = .ok (.taken loc node)) ∨ t.Held c.outputFolder loc

theorem clearLog_pruned (hclosed : Closed t) (h : c.clearLog t = .ok u) :
    Pruned (c.Cleared t) t u := by
  rcases clearLog_eq_ok h with rfl | ⟨loc, node, hfind, hfolder, rfl⟩
  · exact .refl hclosed _
  · have hnode := FileTree.get?_of_find_taken hfind
    have hfree : t.get? loc ≠ some .folder :=
      fun hf => hfolder (Option.some.inj (hnode.symm.trans hf))
    exact .erase hclosed (hclosed.free hfree) (.inl ⟨node, hfind⟩)

theorem clearOutput_pruned (hclosed : Closed t) (h : c.clearOutput t = (u, none)) :
    Pruned (t.Held c.outputFolder) t u ∧
      ∀ top, u.find .target c.outputFolder = .ok (.taken top .folder) →
        ∀ loc, top <+: loc → loc ≠ top → u.get? loc = none := by
  rw [clearOutput] at h
  split at h
  · cases hremove : t.removeFolder c.outputFolder with
    | mk t' failure =>
      rw [hremove] at h
      obtain rfl : t' = u := congrArg Prod.fst h
      obtain rfl : failure = none := Option.map_eq_none_iff.mp (congrArg Prod.snd h)
      exact FileTree.removeFolder_pruned hclosed hremove
  · rename_i habsent
    obtain rfl : t = u := congrArg Prod.fst h
    exact ⟨.refl hclosed _, fun top hfind => absurd (FileTree.isPresent_of_find hfind) habsent⟩

/-! ## What is given up and made -/

/-- Outputs that are prepared without a failure are cleared first, and then folders are made. -/
theorem prepareOutputs_eq_none (hclosed : Closed t) (h : c.prepareOutputs t = (v, none)) :
    ∃ u, Pruned (c.Cleared t) t u ∧
      (∀ top, u.find .target c.outputFolder = .ok (.taken top .folder) →
        ∀ loc, top <+: loc → loc ≠ top → u.get? loc = none) ∧
      u.makeFolders c.outputFolder = (v, none) := by
  rw [prepareOutputs] at h
  cases hlog : c.clearLog t with
  | error fault =>
    rw [hlog] at h
    cases congrArg Prod.snd h
  | ok t₁ =>
    have hpruned := clearLog_pruned hclosed hlog
    rw [hlog] at h
    dsimp only at h
    cases hclear : c.clearOutput t₁ with
    | mk u fault =>
      rw [hclear] at h
      cases fault with
      | some fault => cases congrArg Prod.snd h
      | none =>
        obtain ⟨houtput, hempty⟩ := clearOutput_pruned hpruned.closed hclear
        refine ⟨u, hpruned.trans houtput fun loc hl => .inr (hpruned.thinned.held hl), hempty, ?_⟩
        dsimp only at h
        cases hmake : u.makeFolders c.outputFolder with
        | mk t' failure =>
          rw [hmake] at h
          obtain rfl : t' = v := congrArg Prod.fst h
          obtain rfl : failure = none := Option.map_eq_none_iff.mp (congrArg Prod.snd h)
          rfl

/-- A folder that was made, where nothing stood or what stood was given up. -/
def Made (c : Config) (t v : FileTree) (loc : Location) : Prop :=
  v.get? loc = some .folder ∧ (t.get? loc = none ∨ c.Cleared t loc)

theorem made_of_fresh (hpruned : Pruned (c.Cleared t) t u) {loc : Location}
    (h : u.Fresh v loc) : c.Made t v loc := by
  refine ⟨h.2, or_iff_not_imp_right.mpr fun hkept => ?_⟩
  rw [← hpruned.kept loc hkept]
  exact h.1

/-- Why a configuration that was accepted is refused once its outputs were prepared: the path of the
log ends at a folder that was made or goes up from one, or the path of a file that the run needs
passes something that was given up. -/
inductive Objection (c : Config) (t v : FileTree) : ConfigFault → Prop
  | log {loc : Location} (made : c.Made t v loc)
      (passed : ComesBy v c.logFile loc [] ∨
        ∃ rest, ComesBy v c.logFile loc (['.', '.'] :: rest)) :
      Objection c t v (.logIsFolder c.logFile)
  | compiler {loc : Location} (explicit : isExplicit c.compiler = true)
      (passed : t.Passes c.compiler loc) (cleared : c.Cleared t loc) (lost : t.Lost v loc) :
      Objection c t v (.noCompiler c.compiler)
  | supportFile {loc : Location} (full : c.mode = .full)
      (passed : t.Passes c.supportFile loc) (cleared : c.Cleared t loc) (lost : t.Lost v loc) :
      Objection c t v (.noSupportFile c.supportFile)

/-- What preparing the outputs without a failure leaves. -/
structure Prepared (c : Config) (t v : FileTree) : Prop where
  /-- What is not given up stays, and where nothing stood folders were made on the way to the output
  folder only. -/
  kept : ∀ loc, ¬c.Cleared t loc → v.get? loc = t.get? loc ∨
    t.Fresh v loc ∧ ∃ names, ComesBy v c.outputFolder loc names
  /-- The output folder is there, and is empty unless its path goes up from a folder that was made. -/
  output : c.outputFolder.chars ≠ [] → ∃ top,
    v.find .target c.outputFolder = .ok (.taken top .folder) ∧
      ((∀ loc, top <+: loc → loc ≠ top → v.get? loc = none) ∨
        ∃ loc rest, c.Made t v loc ∧ ComesBy v c.outputFolder loc (['.', '.'] :: rest))
  /-- The configuration is still accepted, or there is an objection to it now. -/
  verdict : ∀ fault, c.validate v = some fault → c.Objection t v fault

/-- A file that was found is found unless its path passes something that was given up. -/
theorem lost_of_absent (hpruned : Pruned (c.Cleared t) t u) (hgrown : Grown u v) {p : Path}
    {loc : Location} {node : Node} (hfind : t.find .target p = .ok (.taken loc node))
    (habsent : v.find .target p ≠ .ok (.taken loc node)) :
    ∃ l, t.Passes p l ∧ c.Cleared t l ∧ t.Lost v l := by
  by_cases hlost : ∃ l, t.Passes p l ∧ t.Lost v l
  · obtain ⟨l, hpasses, node, hnode, hgone⟩ := hlost
    refine ⟨l, hpasses, not_not.mp fun hcleared => hgone ?_, node, hnode, hgone⟩
    have hu := (hpruned.kept l hcleared).trans hnode
    exact (hgrown.get? l).elim (fun hsame => hsame.trans hu) fun hfresh => by
      rw [hu] at hfresh
      cases hfresh.1
  · have hhere : v.here = t.here := hgrown.here.trans hpruned.thinned.here
    exact absurd (FileTree.find_of_passes hhere hfind fun l hl hgone => hlost ⟨l, hl, hgone⟩) habsent

theorem compiler_lost (hpruned : Pruned (c.Cleared t) t u) (hgrown : Grown u v) {p : Path}
    (hpresent : t.isPresent p = true) (habsent : v.isPresent p = false) :
    ∃ l, t.Passes p l ∧ c.Cleared t l ∧ t.Lost v l := by
  rw [FileTree.isPresent, FileTree.node?] at hpresent
  split at hpresent
  · rename_i loc node hfind
    refine lost_of_absent hpruned hgrown hfind fun hv => ?_
    rw [FileTree.isPresent_of_find hv] at habsent
    cases habsent
  · cases hpresent

theorem supportFile_lost (hpruned : Pruned (c.Cleared t) t u) (hgrown : Grown u v) {p : Path}
    (hfile : t.isFile p = true) (habsent : v.isFile p = false) :
    ∃ l, t.Passes p l ∧ c.Cleared t l ∧ t.Lost v l := by
  obtain ⟨loc, node, hfind, -⟩ := FileTree.taken_of_isFile hfile
  refine lost_of_absent hpruned hgrown hfind fun hv => ?_
  rw [FileTree.isFile, FileTree.node?_of_find hfind] at hfile
  rw [FileTree.isFile, FileTree.node?_of_find hv] at habsent
  rw [habsent] at hfile
  cases hfile

/-- A log that is a folder after the outputs were prepared is one of the folders made, or its path goes
up from one. -/
theorem log_misled (hpruned : Pruned (c.Cleared t) t u) (hgrown : Grown u v) {p : Path}
    (hbefore : t.isFolder p = false) (hafter : v.isFolder p = true) :
    ∃ loc, c.Made t v loc ∧
      (ComesBy v p loc [] ∨ ∃ rest, ComesBy v p loc (['.', '.'] :: rest)) := by
  obtain ⟨loc, hfind⟩ := FileTree.isFolder_iff.mp hafter
  rcases FileTree.find_grown hpruned.closed hgrown hfind with hold | hfresh | ⟨l, rest, hl, hup⟩
  · have hfolder := FileTree.isFolder_of_find (hpruned.thinned.find hold)
    rw [hbefore] at hfolder
    cases hfolder
  · exact ⟨loc, made_of_fresh hpruned hfresh, .inl (FileTree.comesBy_of_find hfind)⟩
  · exact ⟨l, made_of_fresh hpruned hl, .inr ⟨rest, hup⟩⟩

/-- The output folder is there once folders were made. One that was there before was emptied, and then
nothing was made. -/
theorem output_of_makeFolders (hpruned : Pruned (c.Cleared t) t u)
    (hempty : ∀ top, u.find .target c.outputFolder = .ok (.taken top .folder) →
      ∀ loc, top <+: loc → loc ≠ top → u.get? loc = none)
    (hmake : u.makeFolders c.outputFolder = (v, none)) (hgrown : Grown u v)
    (hcomes : ∀ loc, u.Fresh v loc → ∃ names, ComesBy v c.outputFolder loc names)
    (hpath : c.outputFolder.chars ≠ []) :
    ∃ top, v.find .target c.outputFolder = .ok (.taken top .folder) ∧
      ((∀ loc, top <+: loc → loc ≠ top → v.get? loc = none) ∨
        ∃ loc rest, c.Made t v loc ∧ ComesBy v c.outputFolder loc (['.', '.'] :: rest)) := by
  obtain ⟨top, hfind⟩ := FileTree.isFolder_iff.mp (FileTree.isFolder_of_makeFolders hpath hmake)
  refine ⟨top, hfind, ?_⟩
  have goesUp (hup : ∃ loc rest, u.Fresh v loc ∧
      ComesBy v c.outputFolder loc (['.', '.'] :: rest)) :
      ∃ loc rest, c.Made t v loc ∧ ComesBy v c.outputFolder loc (['.', '.'] :: rest) := by
    obtain ⟨loc, rest, hfresh, hcome⟩ := hup
    exact ⟨loc, rest, made_of_fresh hpruned hfresh, hcome⟩
  rcases FileTree.find_grown hpruned.closed hgrown hfind with hold | hfresh | hup
  · rw [FileTree.makeFolders_of_find hold] at hmake
    obtain rfl : u = v := congrArg Prod.fst hmake
    exact .inl (hempty top hold)
  · exact (FileTree.fresh_empty hpruned.closed hgrown hcomes (FileTree.comesBy_of_find hfind)
      hfresh).imp id goesUp
  · exact .inr (goesUp hup)

/-- What was accepted before is objected to for what was given up or made. The output folder cannot be
a file any more. -/
theorem objection_of_validate (haccepted : c.Accepted t) (hpruned : Pruned (c.Cleared t) t u)
    (hmake : u.makeFolders c.outputFolder = (v, none)) (hgrown : Grown u v) {fault : ConfigFault}
    (hfault : c.validate v = some fault) : c.Objection t v fault := by
  cases refused_of_validate hfault with
  | time zero =>
    rw [haccepted.time] at zero
    cases zero
  | log folder =>
    obtain ⟨loc, hmade, hpassed⟩ := log_misled hpruned hgrown haccepted.log folder
    exact .log hmade hpassed
  | output file =>
    obtain ⟨loc, node, hfind, -⟩ := FileTree.taken_of_isFile file
    obtain ⟨hutterable, -⟩ := FileTree.find_eq_ok_iff.mp hfind
    obtain ⟨top, htop⟩ := FileTree.isFolder_iff.mp
      (FileTree.isFolder_of_makeFolders hutterable.nonempty hmake)
    rw [FileTree.isFile_of_folder htop] at file
    cases file
  | compiler explicit absent =>
    obtain ⟨l, hpasses, hcleared, hlost⟩ :=
      compiler_lost hpruned hgrown (haccepted.compiler explicit) absent
    exact .compiler explicit hpasses hcleared hlost
  | supportFile full absent =>
    obtain ⟨l, hpasses, hcleared, hlost⟩ :=
      supportFile_lost hpruned hgrown (haccepted.supportFile full) absent
    exact .supportFile full hpasses hcleared hlost

/-- Whatever the configured paths have in common, preparing the outputs of a configuration that was
accepted keeps all that is not given up, leaves an empty output folder, and lets the configuration be
accepted, up to what follows from a path that passes what was given up or made. -/
theorem outputs_prepared (hclosed : Closed t) (hvalid : c.validate t = none)
    (h : c.prepareOutputs t = (v, none)) : c.Prepared t v := by
  obtain ⟨u, hpruned, hempty, hmake⟩ := prepareOutputs_eq_none hclosed h
  have hgrown : Grown u v := by
    have := FileTree.makeFolders_grown u c.outputFolder
    rwa [hmake] at this
  have hcomes : ∀ loc, u.Fresh v loc → ∃ names, ComesBy v c.outputFolder loc names :=
    fun loc hfresh => FileTree.comesBy_of_makeFolders hmake hfresh
  refine ⟨fun loc hkept => ?_, output_of_makeFolders hpruned hempty hmake hgrown hcomes,
    fun _ => objection_of_validate (validate_eq_none.mp hvalid) hpruned hmake hgrown⟩
  have hsame := hpruned.kept loc hkept
  rcases hgrown.get? loc with hv | hfresh
  · exact .inl (hv.trans hsame)
  · exact .inr ⟨⟨hsame ▸ hfresh.1, hfresh.2⟩, hcomes loc hfresh⟩

end Config

namespace Session

/-- A configuration with all that a run needs, beside the outputs of an earlier run. -/
def readyConfig : Config where
  compiler := ⟨"c"⟩
  supportFile := ⟨"t"⟩
  logFile := ⟨"l"⟩
  outputFolder := ⟨"o"⟩

theorem formerTree_closed : Closed formerTree :=
  FileTree.closed_of_entries (by decide)

/-- The artifact of the earlier run is gone, its folder is empty, and the run may begin. -/
theorem former_prepared :
    Closed formerTree ∧ readyConfig.validate formerTree = none ∧
      readyConfig.prepareOutputs formerTree = (emptiedTree, none) ∧
      readyConfig.Prepared formerTree emptiedTree := by
  have hvalid : readyConfig.validate formerTree = none :=
    validate_former (by decide) rfl rfl (fun hexplicit => absurd hexplicit (by decide))
      fun _ => isFile_formerTest
  have hprepared : readyConfig.prepareOutputs formerTree = (emptiedTree, none) :=
    prepareOutputs_former rfl node?_formerLog
  exact ⟨formerTree_closed, hvalid, hprepared,
    Config.outputs_prepared formerTree_closed hvalid hprepared⟩

/-! ## Paths that have something in common -/

/-- What the run needs is in the output folder. -/
def insideConfig : Config where
  compiler := ⟨"o/a"⟩
  supportFile := ⟨"o/a"⟩
  logFile := ⟨"l"⟩
  outputFolder := ⟨"o"⟩

section
variable {t : FileTree}

theorem utterable_inside : FileTree.Utterable ⟨"o/a"⟩ :=
  ⟨by decide, by decide, by decide⟩

theorem proper_inside : FileTree.Proper ['a'] :=
  ⟨by decide, by decide, by decide⟩

theorem way_inside (hhere : t.here = []) (hfolder : t.get? ["o"] = some .folder) :
    Way t.get? .target (t.outset ⟨"o/a"⟩) ⟨false, FileTree.maxLinks, ["o"], [['a']]⟩ := by
  have houtset : t.outset ⟨"o/a"⟩ = ⟨false, FileTree.maxLinks, [], [['o'], ['a']]⟩ := by
    rw [FileTree.outset, hhere, ite_self]
    rfl
  rw [houtset]
  exact .stride (.down rfl ⟨by decide, by decide, by decide⟩ rfl hfolder FileTree.folder_ne_link)
    (.done _)

theorem node?_inside (hhere : t.here = []) (hfolder : t.get? ["o"] = some .folder)
    (hlink : ∀ target, t.get? ["o", "a"] ≠ some (.link target)) :
    t.node? ⟨"o/a"⟩ = t.get? ["o", "a"] := by
  have hway := way_inside hhere hfolder
  cases hnode : t.get? ["o", "a"] with
  | none => exact FileTree.node?_of_free (FileTree.find_eq_ok_iff.mpr ⟨utterable_inside, _, hway,
      .free hfolder proper_inside rfl hnode⟩)
  | some node =>
    have hplain : ∀ target, node ≠ .link target := fun target he => hlink target (he ▸ hnode)
    exact FileTree.node?_of_find (FileTree.find_eq_ok_iff.mpr ⟨utterable_inside, _,
      hway.trans (.stride (.down hfolder proper_inside rfl hnode hplain) (.done _)),
      .taken hnode fun _ => nofun⟩)

end

/-- A folder with a file. -/
def filledTree : FileTree where
  entries := [(["n"], .folder), (["n", "x"], .file 0)]
  held := #[{ mode := Node.plainMode }]

/-- The output folder is reached past one that is missing. -/
def detourConfig (log : Path) : Config where
  compiler := ⟨"c"⟩
  logFile := log
  outputFolder := ⟨"d/../n"⟩
  mode := .compileOnly

/-- The folder with the one on the detour. -/
def detourTree : FileTree :=
  filledTree.put ["d"] .folder

theorem steps_detour : FileTree.steps ⟨"d/../n"⟩ = [['d'], ['.', '.'], ['n']] := by
  decide

theorem find_detour_free (aim : Aim) : filledTree.find aim ⟨"d"⟩ = .ok (.free ["d"]) :=
  FileTree.find_free ⟨by decide, by decide, by decide⟩ (by decide)
    ⟨by decide, by decide, by decide⟩ rfl rfl rfl

theorem find_detour_missing (aim : Aim) {p : Path} {names : List (List Char)}
    (hp : FileTree.Utterable p) (hsteps : FileTree.steps p = ['d'] :: names) (hnames : names ≠ []) :
    filledTree.find aim p = .error .missing :=
  FileTree.find_missing hp hsteps ⟨by decide, by decide, by decide⟩ hnames rfl rfl

theorem node?_detour : filledTree.node? ⟨"d/../n"⟩ = none :=
  FileTree.node?_of_error
    (find_detour_missing .target ⟨by decide, by decide, by decide⟩ steps_detour (by decide))

theorem stride_detour (aim : Aim) (names : List (List Char)) :
    FileTree.Stride detourTree.get? aim ⟨false, FileTree.maxLinks, [], ['d'] :: names⟩
      ⟨false, FileTree.maxLinks, ["d"], names⟩ :=
  .down rfl ⟨by decide, by decide, by decide⟩ (by simp [FileTree.Admits]) rfl FileTree.folder_ne_link

theorem find_detour_made (aim : Aim) : detourTree.find aim ⟨"d"⟩ = .ok (.taken ["d"] .folder) :=
  FileTree.find_eq_ok_iff.mpr ⟨⟨by decide, by decide, by decide⟩, _,
    .stride (stride_detour aim []) (.done _), .taken rfl fun _ _ => rfl⟩

/-- Past the new folder the old one is reached. -/
theorem find_detour (aim : Aim) :
    detourTree.find aim ⟨"d/.."⟩ = .ok (.taken [] .folder) ∧
      detourTree.find aim ⟨"d/../n"⟩ = .ok (.taken ["n"] .folder) := by
  have up (names : List (List Char)) : Way detourTree.get? aim
      ⟨false, FileTree.maxLinks, [], ['d'] :: ['.', '.'] :: names⟩
      ⟨false, FileTree.maxLinks, [], names⟩ :=
    .stride (stride_detour aim _) (.stride (.parent rfl) (.done _))
  have onward : Way detourTree.get? aim ⟨false, FileTree.maxLinks, [], [['n']]⟩
      ⟨false, FileTree.maxLinks, ["n"], []⟩ :=
    .stride (.down rfl ⟨by decide, by decide, by decide⟩ (by simp [FileTree.Admits]) rfl
      FileTree.folder_ne_link) (.done _)
  constructor
  · exact FileTree.find_eq_ok_iff.mpr ⟨⟨by decide, by decide, by decide⟩, _, up [],
      .taken rfl fun _ _ => rfl⟩
  · exact FileTree.find_eq_ok_iff.mpr ⟨⟨by decide, by decide, by decide⟩, _,
      (up [['n']]).trans onward, .taken rfl fun _ _ => rfl⟩

/-- The folder on the detour is made, and the one at the end of it is there then. -/
theorem makeFolders_detour : filledTree.makeFolders ⟨"d/../n"⟩ = (detourTree, none) := by
  have hfirst : filledTree.makeFolder ⟨"d"⟩ = .ok detourTree := by
    rw [FileTree.makeFolder, find_detour_free]
    rfl
  have hmissing : filledTree.makeFolder ⟨"d/.."⟩ = .error .missing ∧
      filledTree.makeFolder ⟨"d/../n"⟩ = .error .missing := by
    have hsteps : FileTree.steps ⟨"d/.."⟩ = [['d'], ['.', '.']] := by decide
    constructor
    · rw [FileTree.makeFolder,
        find_detour_missing .name ⟨by decide, by decide, by decide⟩ hsteps (by decide)]
    · rw [FileTree.makeFolder,
        find_detour_missing .name ⟨by decide, by decide, by decide⟩ steps_detour (by decide)]
  have hpresent : detourTree.makeFolder ⟨"d/.."⟩ = .error .present ∧
      detourTree.makeFolder ⟨"d/../n"⟩ = .error .present := by
    constructor
    · rw [FileTree.makeFolder, (find_detour .name).1]
    · rw [FileTree.makeFolder, (find_detour .name).2]
  have habove : filledTree.makeFoldersWithin ⟨"d/.."⟩ 7 = (detourTree, none) := by
    have hparent : Path.parent? ⟨"d/.."⟩ = some ⟨"d"⟩ := by decide +kernel
    have hd : filledTree.makeFoldersWithin ⟨"d"⟩ 6 = (detourTree, none) := by
      rw [FileTree.makeFoldersWithin, if_neg (by decide), hfirst]
    rw [FileTree.makeFoldersWithin, if_neg (by decide), hmissing.1]
    simp only [hparent, hd, hpresent.1, FileTree.isFolder_of_find (find_detour .target).1, if_true]
  have hparent : Path.parent? ⟨"d/../n"⟩ = some ⟨"d/.."⟩ := by decide +kernel
  show filledTree.makeFoldersWithin ⟨"d/../n"⟩ 8 = _
  rw [FileTree.makeFoldersWithin, if_neg (by decide), hmissing.2]
  simp only [hparent, habove, hpresent.2, FileTree.isFolder_of_find (find_detour .target).2, if_true]

theorem prepareOutputs_detour {log : Path} (hlog : filledTree.node? log = none) :
    (detourConfig log).prepareOutputs filledTree = (detourTree, none) := by
  have hclear : (detourConfig log).clearLog filledTree = .ok filledTree :=
    if_neg (by rw [detourConfig, FileTree.isPresent_of_none hlog]; decide)
  have houtput : (detourConfig log).clearOutput filledTree = (filledTree, none) := by
    have habsent : filledTree.isPresent ⟨"d/../n"⟩ = false :=
      FileTree.isPresent_of_none node?_detour
    exact if_neg (by rw [detourConfig, habsent]; decide)
  have hmake : filledTree.makeFolders (detourConfig log).outputFolder = (detourTree, none) :=
    makeFolders_detour
  rw [Config.prepareOutputs, hclear]
  dsimp only
  rw [houtput]
  dsimp only
  rw [hmake]
  rfl

theorem validate_detour {log : Path} (hlog : filledTree.node? log = none) :
    (detourConfig log).validate filledTree = none := by
  have hname : ¬Config.isExplicit ⟨"c"⟩ = true := by decide
  exact Config.validate_eq_none.mpr
    ⟨rfl, FileTree.isFolder_of_none hlog, FileTree.isFile_of_none node?_detour,
      fun hexplicit => absurd hexplicit hname, fun hfull => by cases hfull⟩

/-- That the compiler and the support file stay, that the log does not become a folder, that no folder
is made but the output folder, and that this one is empty: all of it fails. -/
theorem outputs_in_common :
    (Closed formerTree ∧ insideConfig.validate formerTree = none ∧
      insideConfig.prepareOutputs formerTree = (emptiedTree, none) ∧
      emptiedTree.node? ⟨"o/a"⟩ = none ∧ insideConfig.validate emptiedTree ≠ none) ∧
    Closed filledTree ∧
    ((detourConfig ⟨"d"⟩).validate filledTree = none ∧
      (detourConfig ⟨"d"⟩).prepareOutputs filledTree = (detourTree, none) ∧
      detourTree.isFolder ⟨"d"⟩ = true ∧ (detourConfig ⟨"d"⟩).validate detourTree ≠ none) ∧
    (detourConfig ⟨"l"⟩).validate filledTree = none ∧
      (detourConfig ⟨"l"⟩).prepareOutputs filledTree = (detourTree, none) ∧
      filledTree.get? ["d"] = none ∧ detourTree.get? ["d"] = some .folder ∧
      detourTree.find .target ⟨"d/../n"⟩ = .ok (.taken ["n"] .folder) ∧
      detourTree.get? ["n", "x"] ≠ none := by
  have hfile : formerTree.node? ⟨"o/a"⟩ = some (.plain "old".toUTF8.toList) :=
    node?_inside rfl rfl fun _ h => Node.noConfusion (Option.some.inj h)
  have hgone : emptiedTree.node? ⟨"o/a"⟩ = none :=
    node?_inside rfl rfl fun _ h => Option.some_ne_none _ h.symm
  have hfolder : detourTree.isFolder ⟨"d"⟩ = true :=
    FileTree.isFolder_of_find (find_detour_made .target)
  have hd : filledTree.node? ⟨"d"⟩ = none := FileTree.node?_of_free (find_detour_free .target)
  have hl : filledTree.node? ⟨"l"⟩ = none := FileTree.node?_of_free (find_l .target rfl rfl)
  refine ⟨⟨formerTree_closed, ?_, ?_, hgone, fun hvalid => ?_⟩,
    FileTree.closed_of_entries (by decide),
    ⟨validate_detour hd, prepareOutputs_detour hd, hfolder, fun hvalid => ?_⟩,
    validate_detour hl, prepareOutputs_detour hl, rfl, rfl, (find_detour .target).2,
    Option.some_ne_none _⟩
  · refine validate_former (by decide) rfl rfl (fun _ => ?_) fun _ => ?_
    · rw [insideConfig, FileTree.isPresent, hfile]
      rfl
    · rw [insideConfig, FileTree.isFile, hfile]
      rfl
  · exact prepareOutputs_former rfl node?_formerLog
  · have hpresent := (Config.validate_eq_none.mp hvalid).compiler (by decide)
    rw [insideConfig, FileTree.isPresent_of_none hgone] at hpresent
    cases hpresent
  · have hlog := (Config.validate_eq_none.mp hvalid).log
    rw [detourConfig, hfolder] at hlog
    cases hlog

end Session

end Conformance
