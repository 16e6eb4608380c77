import Conformance.Proofs.Files.Spared
import Conformance.Proofs.Files.Spelling
import Mathlib.Data.List.Induction

/-!
# Removing and making folders

In a tree where everything stands in a folder, nothing stands below a place that is free. Removing
keeps a tree so and opens nothing (`removeFolder_pruned`). A path that leads somewhere once folders
were made had led there before, or it ends at one of the folders that are fresh, or it goes up from
one (`Way.grown`). The fresh folders lie on the way of the path that they were made for
(`comesBy_of_makeFolders`).
-/
namespace Conformance.FileTree

variable {t t' u v : FileTree}

/-! ## Trees of folders -/

/-- What stands somewhere stands in a folder. -/
def Closed (t : FileTree) : Prop :=
  ∀ loc name, t.get? (loc ++ [name]) ≠ none → t.get? loc = some .folder

theorem closed_of_entries (h : ∀ e ∈ t.entries, t.get? e.1.dropLast = some .folder) : Closed t := by
  intro loc name hn
  have hentry : (t.entries.lookup (loc ++ [name])).isSome = true := by
    simpa [get?, entryAt?, Option.isSome_iff_ne_none] using hn
  obtain ⟨e, he⟩ := Option.isSome_iff_exists.mp hentry
  obtain ⟨before, after, hsplit, -⟩ := List.lookup_eq_some_iff.mp he
  have hfolder := h (loc ++ [name], e) (by simp [hsplit])
  rwa [List.dropLast_concat] at hfolder

theorem Closed.free (h : Closed t) {loc : Location} (hloc : t.get? loc ≠ some .folder)
    (name : String) : t.get? (loc ++ [name]) = none :=
  not_not.mp fun hn => hloc (h loc name hn)

/-- Nothing stands below what is no folder. -/
theorem Closed.free_below (h : Closed t) {top : Location} (htop : t.get? top ≠ some .folder)
    {loc : Location} (hbelow : top <+: loc) (hne : loc ≠ top) : t.get? loc = none := by
  obtain ⟨names, rfl⟩ := hbelow
  induction names using List.reverseRecOn with
  | nil => exact absurd (List.append_nil top) hne
  | append_singleton names name ih =>
    rw [← List.append_assoc]
    refine h.free ?_ name
    by_cases hnames : names = []
    · rwa [hnames, List.append_nil]
    · rw [ih (by simpa using hnames)]
      nofun

/-- Places may be given up if nothing stands below them that is kept. -/
theorem Closed.keeping (h : Closed t) (keep : Location → Bool)
    (hkeep : ∀ loc name, keep (loc ++ [name]) = true → t.get? (loc ++ [name]) ≠ none →
      keep loc = true) : Closed (t.keeping fun e => keep e.1) := by
  intro loc name hn
  rw [get?_keeping] at hn
  have hkept : keep (loc ++ [name]) = true :=
    Bool.of_not_eq_false fun hk => hn (if_neg (by simp [hk]))
  rw [if_pos (.inr hkept)] at hn
  rw [get?_keeping, if_pos (.inr (hkeep loc name hkept hn))]
  exact h loc name hn

theorem Closed.erase (h : Closed t) {loc : Location}
    (hfree : ∀ name, t.get? (loc ++ [name]) = none) : Closed (t.erase loc) := by
  refine h.keeping (· != loc) fun l name _ hn => ?_
  refine bne_iff_ne.mpr ?_
  rintro rfl
  exact hn (hfree name)

theorem Closed.eraseBelow (h : Closed t) (top : Location) : Closed (t.eraseBelow top) := by
  refine h.keeping (fun l => l == top || !within top l) fun loc name hkept _ => ?_
  cases hwithin : within top loc with
  | false => exact Bool.or_eq_true_iff.mpr (.inr rfl)
  | true =>
    have habove : top <+: loc := List.isPrefixOf_iff_prefix.mp hwithin
    have hbelow : within top (loc ++ [name]) = true :=
      List.isPrefixOf_iff_prefix.mpr (habove.trans (List.prefix_append _ _))
    have htop : loc ++ [name] = top := by simpa [hbelow] using hkept
    have hlength := habove.length_le
    rw [← htop, List.length_append, List.length_singleton] at hlength
    omega

/-! ## Removing -/

/-- A tree from which nothing was taken but at some places, and in which everything stands in a folder
still. -/
structure Pruned (lost : Location → Prop) (t u : FileTree) : Prop where
  thinned : Thinned t u
  closed : Closed u
  kept : ∀ loc, ¬lost loc → u.get? loc = t.get? loc

theorem Pruned.refl (h : Closed t) (lost : Location → Prop) : Pruned lost t t :=
  ⟨⟨rfl, fun _ _ hn => hn⟩, h, fun _ _ => rfl⟩

theorem Pruned.trans {lost lost' : Location → Prop} (h : Pruned lost t u) (k : Pruned lost' u v)
    (hlost : ∀ loc, lost' loc → lost loc) : Pruned lost t v where
  thinned := ⟨k.thinned.here.trans h.thinned.here,
    fun loc node hn => h.thinned.shown loc node (k.thinned.shown loc node hn)⟩
  closed := k.closed
  kept loc hloc := (k.kept loc fun hl => hloc (hlost loc hl)).trans (h.kept loc hloc)

theorem Pruned.erase (h : Closed t) {loc : Location} (hfree : ∀ name, t.get? (loc ++ [name]) = none)
    {lost : Location → Prop} (hlost : lost loc) : Pruned lost t (t.erase loc) where
  thinned := thinned_keeping t (· != loc)
  closed := h.erase hfree
  kept _ hother := get?_erase_other t fun he => hother (he ▸ hlost)

theorem get?_eraseBelow (t : FileTree) {top loc : Location} (hbelow : top <+: loc) (hne : loc ≠ top) :
    (t.eraseBelow top).get? loc = none := by
  have hroot : loc ≠ [] := by
    rintro rfl
    exact hne (List.prefix_nil.mp hbelow).symm
  have hkeeping := get?_keeping t (fun l => l == top || !within top l) loc
  rw [if_neg (by simp [hroot, hne, within, List.isPrefixOf_iff_prefix.mpr hbelow])] at hkeeping
  exact hkeeping

theorem Pruned.eraseBelow (h : Closed t) {top : Location} {lost : Location → Prop}
    (hlost : ∀ loc, within top loc = true → lost loc) : Pruned lost t (t.eraseBelow top) where
  thinned := thinned_keeping t fun l => l == top || !within top l
  closed := h.eraseBelow top
  kept loc hloc := by
    have hkeeping := get?_keeping t (fun l => l == top || !within top l) loc
    have hoff : within top loc = false := Bool.eq_false_iff.mpr fun hw => hloc (hlost loc hw)
    rw [if_pos (.inr (by simp [hoff]))] at hkeeping
    exact hkeeping

/-- The place that the path of a folder leads to, a link at its end left as it is, and all places
below it if that is a folder. -/
def Held (t : FileTree) (p : Path) (loc : Location) : Prop :=
  ∃ top node, t.find .entry p = .ok (.taken top node) ∧
    (loc = top ∨ node = .folder ∧ within top loc = true)

theorem Thinned.held (h : Thinned t u) {p : Path} {loc : Location} (hheld : Held u p loc) :
    Held t p loc := by
  obtain ⟨top, node, hfind, hloc⟩ := hheld
  exact ⟨top, node, h.find hfind, hloc⟩

/-- A folder that was removed without a failure takes nothing but what it holds along, and if its path
leads to a folder still, nothing stands below. -/
theorem removeFolder_pruned (h : Closed t) {p : Path} (hremove : t.removeFolder p = (u, none)) :
    Pruned (t.Held p) t u ∧ ∀ top, u.find .target p = .ok (.taken top .folder) →
      ∀ loc, top <+: loc → loc ≠ top → u.get? loc = none := by
  obtain ⟨top, ⟨target, hname, hentry, rfl⟩ | ⟨hentry, hu⟩⟩ := removeFolder_eq_none hremove
  · have hlink := get?_of_find_taken hname
    have hfree : ∀ name, t.get? (top ++ [name]) = none :=
      h.free (by rw [hlink]; nofun)
    refine ⟨.erase h hfree ⟨top, _, hentry, .inl rfl⟩, fun top' hfolder => ?_⟩
    -- Nothing has the last name of the path any more.
    obtain ⟨-, w, hw, he⟩ := find_eq_ok_iff.mp hname
    obtain ⟨-, x, hx, hex⟩ := find_eq_ok_iff.mp hfolder
    obtain ⟨l, hl⟩ := hw.follow_erase he nofun _ (follow_eq_ok_iff.mpr ⟨x, hx, hex⟩)
    cases hl
  · have hheld : ∀ loc, within top loc = true → t.Held p loc :=
      fun loc hw => ⟨top, _, hentry, .inr ⟨rfl, hw⟩⟩
    have hemptied := Pruned.eraseBelow h hheld
    have hbelow : ∀ loc, top <+: loc → loc ≠ top → (t.eraseBelow top).get? loc = none :=
      fun loc => get?_eraseBelow t
    have hfree : ∀ name, (t.eraseBelow top).get? (top ++ [name]) = none :=
      fun name => hbelow _ (List.prefix_append _ _) (by simp)
    have hpruned : Pruned (t.Held p) t u := by
      rcases hu with rfl | rfl
      · exact hemptied
      · exact hemptied.trans (.erase hemptied.closed hfree (hheld top (within_self top))) fun _ hl => hl
    refine ⟨hpruned, fun top' hfolder loc hwithin hne => ?_⟩
    have hsame := (find_target_of_folder hentry).symm.trans (hpruned.thinned.find hfolder)
    obtain ⟨rfl, -⟩ := Spot.taken.inj (Except.ok.inj hsame)
    have hnone := hbelow loc hwithin hne
    rcases hu with rfl | rfl
    · exact hnone
    · rwa [get?_erase_other _ hne]

/-! ## Fresh folders -/

/-- A folder stands where nothing stood. -/
def Fresh (t t' : FileTree) (loc : Location) : Prop :=
  t.get? loc = none ∧ t'.get? loc = some .folder

theorem not_fresh {loc : Location} : ¬Fresh t t loc := by
  rintro ⟨hnone, hfolder⟩
  rw [hnone] at hfolder
  cases hfolder

theorem Grown.fresh (h : Grown u v) {loc : Location} {node : Node} (hn : v.get? loc = some node)
    (hnew : u.get? loc ≠ some node) : Fresh u v loc := by
  rcases h.get? loc with hsame | hfresh
  · exact absurd (hsame.symm.trans hn) hnew
  · exact hfresh

/-- A way comes to a fresh folder and goes up from it. -/
def GoesUp (u v : FileTree) (w : Waypoint) : Prop :=
  ∃ slash links loc rest, Fresh u v loc ∧
    Way v.get? .target w ⟨slash, links, loc, ['.', '.'] :: rest⟩

theorem GoesUp.stride {w x : Waypoint} (hs : Stride v.get? .target w x) (h : GoesUp u v x) :
    GoesUp u v w := by
  obtain ⟨slash, links, loc, rest, hfresh, hw⟩ := h
  exact ⟨slash, links, loc, rest, hfresh, .stride hs hw⟩

/-- From a fresh folder a way goes down to fresh folders only, or it goes up. -/
theorem Way.from_fresh (hclosed : Closed u) (hg : Grown u v) {w x : Waypoint}
    (h : Way v.get? .target w x) (hx : x.names = []) (hw : u.get? w.loc = none) :
    (u.get? x.loc = none ∧ w.loc <+: x.loc) ∨ GoesUp u v w := by
  induction h with
  | done w => exact .inl ⟨hw, List.prefix_rfl⟩
  | @stride w y x hs hway ih =>
    have hfolder : u.get? w.loc ≠ some .folder := by rw [hw]; nofun
    cases hs with
    | here hf => exact (ih hx hw).imp id fun hup => hup.stride (.here hf)
    | parent hf => exact .inr ⟨_, _, _, _, ⟨hw, hf⟩, .done _⟩
    | @down slash links loc name names node hf hp ha hn hl =>
      have hnext : u.get? (under loc name) = none := hclosed.free hfolder _
      refine (ih hx hnext).imp (fun ⟨hnew, hbelow⟩ => ⟨hnew, ?_⟩)
        fun hup => hup.stride (.down hf hp ha hn hl)
      exact (List.prefix_append _ _).trans hbelow
    | @link slash links loc name names target hf hp ha hn hk =>
      have hnone : u.get? (under loc name) = none := hclosed.free hfolder _
      have hfresh := (hg.fresh hn (by rw [hnone]; nofun)).2
      rw [hn] at hfresh
      cases hfresh

/-- Where a way leads once folders were made, it has led before, or it leads to a fresh folder, or it
goes up from one. -/
theorem Way.grown (hclosed : Closed u) (hg : Grown u v) {w x : Waypoint}
    (h : Way v.get? .target w x) (hx : x.names = []) :
    Way u.get? .target w x ∨ u.get? x.loc = none ∨ GoesUp u v w := by
  induction h with
  | done w => exact .inl (.done w)
  | @stride w y x hs hway ih =>
    by_cases hw : u.get? w.loc = none
    · rcases Way.from_fresh hclosed hg (.stride hs hway) hx hw with ⟨hnew, -⟩ | hup
      · exact .inr (.inl hnew)
      · exact .inr (.inr hup)
    have hold {loc : Location} {node : Node} (hn : v.get? loc = some node)
        (hsome : u.get? loc ≠ none) : u.get? loc = some node := by
      rcases hg.get? loc with hsame | ⟨hnone, -⟩
      · exact hsame.symm.trans hn
      · exact absurd hnone hsome
    have goes (hs' : Stride u.get? .target w y) :
        Way u.get? .target w x ∨ u.get? x.loc = none ∨ GoesUp u v w :=
      (ih hx).imp (.stride hs') (.imp id (.stride hs))
    cases hs with
    | here hf => exact goes (.here (hold hf hw))
    | parent hf => exact goes (.parent (hold hf hw))
    | @down slash links loc name names node hf hp ha hn hl =>
      by_cases hnext : u.get? (under loc name) = none
      · rcases Way.from_fresh hclosed hg hway hx hnext with ⟨hnew, -⟩ | hup
        · exact .inr (.inl hnew)
        · exact .inr (.inr (hup.stride (.down hf hp ha hn hl)))
      · exact goes (.down (hold hf hw) hp ha (hold hn hnext) hl)
    | @link slash links loc name names target hf hp ha hn hk =>
      have hnext : u.get? (under loc name) ≠ none := by
        intro hnone
        have hfresh := (hg.fresh hn (by rw [hnone]; nofun)).2
        rw [hn] at hfresh
        cases hfresh
      exact goes (.link (hold hf hw) hp ha (hold hn hnext) hk)

/-! ## Paths -/

/-- Where a path is followed from, without dots. -/
def departure (t : FileTree) (p : Path) : Waypoint :=
  ⟨false, maxLinks, if p.isAbsolute then [] else t.here, p.moves⟩

/-- A path comes by a location with these names left to go. -/
def ComesBy (t : FileTree) (p : Path) (loc : Location) (names : List (List Char)) : Prop :=
  ∃ slash links, Way t.get? .target (t.departure p) ⟨slash, links, loc, names⟩

/-- A path leads to what stands at the end of its moves. -/
theorem comesBy_of_find {p : Path} {loc : Location} {node : Node}
    (h : t.find .target p = .ok (.taken loc node)) : ComesBy t p loc [] :=
  way_of_moves h false

theorem find_of_comesBy {p : Path} (hp : Utterable p) {loc : Location} (h : ComesBy t p loc [])
    (hf : t.get? loc = some .folder) : t.find .target p = .ok (.taken loc .folder) := by
  obtain ⟨slash, links, hw⟩ := h
  have hundotted : Undotted (steps p) p.moves := by
    rw [← Path.filter_steps]
    exact undotted_filter (steps p)
  obtain ⟨s, hw'⟩ := hw.redotted rfl hf hundotted p.endsWithSlash
  exact find_eq_ok_iff.mpr ⟨hp, _, hw', .taken hf fun _ _ => rfl⟩

theorem departure_grown (hg : Grown u v) (p : Path) : v.departure p = u.departure p := by
  rw [departure, departure, hg.here]

theorem ComesBy.grown (hg : Grown u v) {p : Path} {loc : Location} {names : List (List Char)}
    (h : ComesBy u p loc names) : ComesBy v p loc names := by
  obtain ⟨slash, links, hw⟩ := h
  exact ⟨slash, links, by rw [departure_grown hg]; exact hw.opens hg.opens⟩

/-- A path that leads to a folder once folders were made led there before, or the folder is fresh, or
the path goes up from a fresh one. -/
theorem find_grown (hclosed : Closed u) (hg : Grown u v) {p : Path} {loc : Location}
    (h : v.find .target p = .ok (.taken loc .folder)) :
    u.find .target p = .ok (.taken loc .folder) ∨ Fresh u v loc ∨
      ∃ l rest, Fresh u v l ∧ ComesBy v p l (['.', '.'] :: rest) := by
  obtain ⟨hp, -⟩ := find_eq_ok_iff.mp h
  have hfolder := get?_of_find_taken h
  obtain ⟨slash, links, hw⟩ := comesBy_of_find h
  rcases hw.grown hclosed hg rfl with hold | hnew | ⟨s, k, l, rest, hfresh, hup⟩
  · rcases hg.get? loc with hsame | hfresh
    · rw [departure_grown hg] at hold
      exact .inl (find_of_comesBy hp ⟨slash, links, hold⟩ (hsame.symm.trans hfolder))
    · exact .inr (.inl hfresh)
  · exact .inr (.inl ⟨hnew, hfolder⟩)
  · exact .inr (.inr ⟨l, rest, hfresh, s, k, hup⟩)

/-- A way to the end of all names leads on from each waypoint it comes by. -/
theorem Way.rest {look : Location → Option Node} {aim : Aim} {w x y : Waypoint}
    (h : Way look aim w x) (k : Way look aim w y) (hy : y.names = []) : Way look aim x y := by
  induction h with
  | done w => exact k
  | stride hs _ ih =>
    cases k with
    | done => cases hs <;> cases hy
    | stride hs' k =>
      obtain rfl := hs.unique hs'
      exact ih k

/-- If a path comes by all fresh folders and ends at one, nothing stands below that one, or the path
goes up. -/
theorem fresh_empty (hclosed : Closed u) (hg : Grown u v) {p : Path}
    (hcomes : ∀ loc, Fresh u v loc → ∃ names, ComesBy v p loc names) {top : Location}
    (hends : ComesBy v p top []) (htop : Fresh u v top) :
    (∀ loc, top <+: loc → loc ≠ top → v.get? loc = none) ∨
      ∃ l rest, Fresh u v l ∧ ComesBy v p l (['.', '.'] :: rest) := by
  refine or_iff_not_imp_right.mpr fun hup loc hbelow hne => not_not.mp fun hn => ?_
  have hnone : u.get? loc = none := by
    refine hclosed.free_below ?_ hbelow hne
    rw [htop.1]
    nofun
  have hfresh : Fresh u v loc :=
    (hg.get? loc).resolve_left fun hsame => hn (hsame.trans hnone)
  obtain ⟨names, s, k, hway⟩ := hcomes loc hfresh
  obtain ⟨s', k', hend⟩ := hends
  have hrest := hway.rest hend rfl
  rcases hrest.from_fresh hclosed hg rfl hnone with ⟨-, habove⟩ | ⟨s₁, k₁, l, rest, hl, hway'⟩
  · exact hne (habove.eq_of_length_le hbelow.length_le)
  · exact hup ⟨l, rest, hl, s₁, k₁, hway.trans hway'⟩

/-! ## Making folders -/

theorem makeFolder_eq_ok {p : Path} (h : t.makeFolder p = .ok t') :
    ∃ loc, t.get? loc = none ∧ t' = t.put loc .folder ∧
      t'.find .target p = .ok (.taken loc .folder) := by
  have hg := makeFolder_grown h
  unfold makeFolder at h
  split at h
  · cases h
  · rename_i loc hfind
    obtain rfl := Except.ok.inj h
    refine ⟨loc, get?_of_find_free hfind, rfl, ?_⟩
    have hmade := get?_put_folder_self t loc
    obtain ⟨hp, w, hw, he⟩ := find_eq_ok_iff.mp hfind
    have hw' := (hw.opens hg.opens).target
    cases he with
    | @free slash links l name hf hname ha hn =>
      refine find_eq_ok_iff.mpr ⟨hp, ⟨slash, links, under l name, []⟩, ?_, .taken hmade fun _ _ => rfl⟩
      rw [outset, hg.here]
      exact hw'.trans (.stride (.down (hg.opens.folder hf) hname rfl hmade folder_ne_link) (.done _))
  · cases h

/-- All that making folders can do without a failure. -/
theorem makeFoldersWithin_eq_none {p : Path} {depth : Nat}
    (h : t.makeFoldersWithin p (depth + 1) = (t', none)) :
    (p.chars = [] ∧ t' = t) ∨ ∃ w, (w.makeFolder p = .ok t' ∨ t' = w ∧ w.isFolder p = true) ∧
      (w = t ∨ ∃ above, p.parent? = some above ∧
        t.makeFoldersWithin above depth = (w, none)) := by
  unfold makeFoldersWithin at h
  split at h
  · rename_i hempty
    exact .inl ⟨hempty, (congrArg Prod.fst h).symm⟩
  right
  split at h
  · rename_i w hmake
    obtain rfl : w = t' := congrArg Prod.fst h
    exact ⟨t, .inl hmake, .inl rfl⟩
  · split at h
    · cases h
    · rename_i above habove
      split at h
      · cases h
      · rename_i w hw
        refine ⟨w, ?_, .inr ⟨above, habove, hw⟩⟩
        split at h
        · rename_i t'' hmake
          obtain rfl : t'' = t' := congrArg Prod.fst h
          exact .inl hmake
        · obtain rfl : w = t' := congrArg Prod.fst h
          exact .inr ⟨rfl, by simpa using congrArg Prod.snd h⟩
  · obtain rfl : t = t' := congrArg Prod.fst h
    exact ⟨t, .inr ⟨rfl, by simpa using congrArg Prod.snd h⟩, .inl rfl⟩

/-- Folders that were made without a failure lead to one. -/
theorem isFolder_of_makeFolders {p : Path} (hp : p.chars ≠ [])
    (h : t.makeFolders p = (t', none)) : t'.isFolder p = true := by
  rcases makeFoldersWithin_eq_none h with ⟨hempty, -⟩ | ⟨w, hmade | ⟨rfl, hfolder⟩, -⟩
  · exact absurd hempty hp
  · obtain ⟨loc, -, -, hfind⟩ := makeFolder_eq_ok hmade
    exact isFolder_of_find hfind
  · exact hfolder

/-- What the parent of a path comes by, the path comes by. -/
theorem ComesBy.of_parent {p q : Path} (h : p.parent? = some q) (hq : q.chars ≠ [])
    {loc : Location} {names : List (List Char)} (hc : ComesBy t q loc names) :
    ∃ names', ComesBy t p loc names' := by
  obtain ⟨c, hroot, hcomponents⟩ := Path.components_parent? h
  obtain ⟨first, others, hfirst⟩ := List.exists_cons_of_ne_nil (Path.components_ne_nil hq)
  have habsolute : p.isAbsolute = q.isAbsolute := by
    rw [Bool.eq_iff_iff, Path.isAbsolute_iff_root, Path.isAbsolute_iff_root, hcomponents, hfirst]
    rfl
  have hmoves : p.moves = q.moves ++ [c].filterMap Path.Component.move? := by
    rw [Path.moves, hcomponents, List.filterMap_append]
    rfl
  obtain ⟨slash, links, hw⟩ := hc
  by_cases hlast : [c].filterMap Path.Component.move? = []
  · refine ⟨names, slash, links, ?_⟩
    rw [departure, habsolute, hmoves, hlast, List.append_nil]
    exact hw
  · refine ⟨names ++ [c].filterMap Path.Component.move?, false, links, ?_⟩
    rw [departure, habsolute, hmoves]
    exact hw.append hlast .target false

/-- A path comes by all folders that were made for it. -/
theorem comesBy_of_makeFolders {p : Path} {depth : Nat}
    (h : t.makeFoldersWithin p depth = (t', none)) {loc : Location} (hfresh : Fresh t t' loc) :
    ∃ names, ComesBy t' p loc names := by
  induction depth generalizing p t' loc with
  | zero => cases h
  | succ depth ih =>
    rcases makeFoldersWithin_eq_none h with ⟨-, rfl⟩ | ⟨w, hlast, hbefore⟩
    · exact absurd hfresh not_fresh
    -- Folders above were made by the parent of the path.
    have habove {l : Location} (hl : Fresh t w l) : ∃ names, ComesBy w p l names := by
      rcases hbefore with rfl | ⟨above, hparent, hw⟩
      · exact absurd hl not_fresh
      obtain ⟨names, hcomes⟩ := ih hw hl
      by_cases hempty : above.chars = []
      · obtain rfl : t = w := by
          cases depth with
          | zero => cases hw
          | succ depth =>
            rw [makeFoldersWithin, if_pos hempty] at hw
            exact congrArg Prod.fst hw
        exact absurd hl not_fresh
      · exact hcomes.of_parent hparent hempty
    rcases hlast with hmade | ⟨rfl, -⟩
    · obtain ⟨last, -, rfl, hfind⟩ := makeFolder_eq_ok hmade
      by_cases hloc : loc = last
      · subst hloc
        exact ⟨[], comesBy_of_find hfind⟩
      · have hw : Fresh t w loc := ⟨hfresh.1, (get?_put_folder_other w hloc).symm.trans hfresh.2⟩
        obtain ⟨names, hcomes⟩ := habove hw
        exact ⟨names, hcomes.grown (makeFolder_grown hmade)⟩
    · exact habove hfresh

end Conformance.FileTree
