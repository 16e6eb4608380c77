import Conformance.Proofs.Files.Growth

/-!
# What removing spares

A file is removed from the place that its path leads to, a folder from there on down. All other
places stand for what they stood for. A tree from which something was taken shows nothing new, so
whatever a path leads to in it, it has led to before (`Thinned.find`). A folder that is removed
without a failure leaves nothing below it (`removeFolder_eq_none`).
-/
namespace Conformance.FileTree

variable {t u v : FileTree}

theorem lookup_filter_location {α : Type} (entries : List (Location × α)) (keep : Location → Bool)
    (loc : Location) :
    (entries.filter fun e => keep e.1).lookup loc =
      if keep loc = true then entries.lookup loc else none := by
  induction entries with
  | nil => simp
  | cons e entries ih =>
    obtain ⟨key, entry⟩ := e
    by_cases hkey : loc = key
    · subst hkey
      cases hkeep : keep loc with
      | true => simp [hkeep]
      | false => simpa [hkeep] using ih
    · have hne : (loc == key) = false := beq_false_of_ne hkey
      cases hkeep : keep key with
      | true => simpa [hkeep, List.lookup_cons, hne] using ih
      | false => simpa [hkeep, List.lookup_cons, hne] using ih

/-- Only what stands at places that are not kept is gone; the root always stays. -/
theorem get?_keeping (t : FileTree) (keep : Location → Bool) (loc : Location) :
    (t.keeping fun e => keep e.1).get? loc =
      if loc = [] ∨ keep loc = true then t.get? loc else none := by
  have hnode : (t.keeping fun e => keep e.1).nodeOf = t.nodeOf := by
    funext e
    exact nodeOf_congr fun _ _ => rfl
  rw [get?, get?, hnode]
  by_cases hroot : loc = []
  · subst hroot
    simp
  · simp only [entryAt?, keeping, hroot, if_false, false_or, lookup_filter_location]
    split <;> rfl

/-- A tree that shows nothing but what another one shows. -/
structure Thinned (t t' : FileTree) : Prop where
  here : t'.here = t.here
  shown : ∀ loc node, t'.get? loc = some node → t.get? loc = some node

theorem thinned_keeping (t : FileTree) (keep : Location → Bool) :
    Thinned t (t.keeping fun e => keep e.1) := by
  refine ⟨rfl, fun loc node h => ?_⟩
  rw [get?_keeping] at h
  split at h
  · exact h
  · cases h

/-- What a path leads to where something was taken, it has led to before. -/
theorem Thinned.find (h : Thinned t u) {aim : Aim} {p : Path} {loc : Location} {node : Node}
    (hfind : u.find aim p = .ok (.taken loc node)) : t.find aim p = .ok (.taken loc node) := by
  obtain ⟨hp, w, hw, he⟩ := find_eq_ok_iff.mp hfind
  have hopens : Opens u.get? t.get? := opens_of_some h.shown
  have houtset : u.outset p = t.outset p := by rw [outset, outset, h.here]
  rw [houtset] at hw
  refine find_eq_ok_iff.mpr ⟨hp, w, hw.opens hopens, ?_⟩
  cases he with
  | taken hn hs => exact .taken (h.shown _ _ hn) hs
  | kept hf hname ha hn hk => exact .kept (hopens.folder hf) hname ha (hopens.link hn) hk

/-- Outside of some places a tree stands for what another one stood for, or has a new folder. -/
def Spares (lost : Location → Prop) (t t' : FileTree) : Prop :=
  ∀ loc, ¬lost loc → t'.get? loc = t.get? loc ∨ t.get? loc = none ∧ t'.get? loc = some .folder

theorem Spares.refl (lost : Location → Prop) (t : FileTree) : Spares lost t t :=
  fun _ _ => .inl rfl

theorem Spares.trans {lost : Location → Prop} (h : Spares lost t u) (k : Spares lost u v) :
    Spares lost t v := by
  intro loc hloc
  rcases h loc hloc with hsame | ⟨hnone, hfolder⟩
  · rcases k loc hloc with hsame' | ⟨hnone', hfolder'⟩
    · exact .inl (hsame'.trans hsame)
    · exact .inr ⟨hsame ▸ hnone', hfolder'⟩
  · rcases k loc hloc with hsame' | ⟨hnone', -⟩
    · exact .inr ⟨hnone, hsame'.trans hfolder⟩
    · rw [hfolder] at hnone'
      cases hnone'

theorem Spares.mono {lost lost' : Location → Prop} (h : Spares lost t u)
    (hlost : ∀ loc, lost loc → lost' loc) : Spares lost' t u :=
  fun loc hloc => h loc fun hl => hloc (hlost loc hl)

theorem Grown.spares (h : Grown t u) (lost : Location → Prop) : Spares lost t u :=
  fun loc _ => h.get? loc

theorem spares_keeping (t : FileTree) (keep : Location → Bool) {lost : Location → Prop}
    (h : ∀ loc, keep loc = false → lost loc) : Spares lost t (t.keeping fun e => keep e.1) := by
  intro loc hloc
  left
  rw [get?_keeping, if_pos (.inr (Bool.of_not_eq_false fun hk => hloc (h loc hk)))]

theorem spares_erase (t : FileTree) {loc : Location} {lost : Location → Prop} (h : lost loc) :
    Spares lost t (t.erase loc) := by
  refine spares_keeping t (· != loc) fun other hother => ?_
  obtain rfl : other = loc := by simpa using hother
  exact h

/-- A file is removed from where its path leads, a link at the end left as it is. -/
theorem removeFile_eq_ok {p : Path} (h : t.removeFile p = .ok u) :
    ∃ loc node, t.find .name p = .ok (.taken loc node) ∧ node ≠ .folder ∧
      p.endsWithSlash = false ∧ u = t.erase loc := by
  unfold removeFile at h
  split at h
  · cases h
  · cases h
  · cases h
  · rename_i loc node hfolder hfind
    split at h
    · cases h
    · rename_i hslash
      exact ⟨loc, node, hfind, fun he => hfolder he, Bool.eq_false_iff.mpr hslash,
        (Except.ok.inj h).symm⟩

theorem removeEmptyFolder_eq_ok {p : Path} (h : t.removeEmptyFolder p = .ok u) :
    ∃ loc, t.find .name p = .ok (.taken loc .folder) ∧ u = t.erase loc := by
  unfold removeEmptyFolder at h
  split at h
  · cases h
  · cases h
  · rename_i loc hfind
    refine ⟨loc, hfind, ?_⟩
    split at h
    · cases h
    · cases h
    · split at h
      · exact (Except.ok.inj h).symm
      · cases h
  · cases h

/-- A place that a path leads to, a link at the end followed or left as it is, or one below. -/
def Reached (t : FileTree) (p : Path) (loc : Location) : Prop :=
  ∃ aim top node, t.find aim p = .ok (.taken top node) ∧ within top loc = true

theorem within_self (loc : Location) : within loc loc = true :=
  List.isPrefixOf_iff_prefix.mpr List.prefix_rfl

/-- However far the removing of a folder comes, it takes nothing but what is reached by its path. -/
theorem spares_removeFolder (t : FileTree) (p : Path) :
    Spares (t.Reached p) t (t.removeFolder p).1 := by
  unfold removeFolder
  split
  · exact .refl _ t
  · exact .refl _ t
  · split
    · rename_i t' h
      obtain ⟨loc, node, hfind, -, -, rfl⟩ := removeFile_eq_ok h
      exact spares_erase t ⟨_, _, _, hfind, within_self loc⟩
    · exact .refl _ t
  · rename_i top hfind
    have hthinned : Thinned t (t.eraseBelow top) :=
      thinned_keeping t fun l => l == top || !within top l
    have hemptied : Spares (t.Reached p) t (t.eraseBelow top) := by
      refine spares_keeping t (fun l => l == top || !within top l) fun loc hloc => ?_
      exact ⟨_, _, _, hfind, by simpa using (Bool.or_eq_false_iff.mp hloc).2⟩
    dsimp only
    split
    · rename_i t' h
      obtain ⟨loc, hfind', rfl⟩ := removeEmptyFolder_eq_ok h
      exact hemptied.trans (spares_erase _ ⟨_, _, _, hthinned.find hfind', within_self loc⟩)
    · exact hemptied
  · exact .refl _ t

/-! ## Removing without a failure -/

/-- A folder that a path leads to with any aim, it leads to with all links followed. -/
theorem find_target_of_folder {aim : Aim} {p : Path} {loc : Location}
    (h : t.find aim p = .ok (.taken loc .folder)) : t.find .target p = .ok (.taken loc .folder) := by
  obtain ⟨hp, w, hw, he⟩ := find_eq_ok_iff.mp h
  cases he with
  | taken hn _ => exact find_eq_ok_iff.mpr ⟨hp, _, hw.target, .taken hn fun _ _ => rfl⟩

/-- Without a slash behind it, a path leads to the same with or without regard to one. -/
theorem Stride.name_of_entry {look : Location → Option Node} {w x : Waypoint}
    (h : Stride look .entry w x) (hs : w.slash = false) :
    Stride look .name w x ∧ x.slash = false := by
  cases h with
  | here hf => exact ⟨.here hf, hs⟩
  | parent hf => exact ⟨.parent hf, hs⟩
  | down hf hp _ hn hl => exact ⟨.down hf hp rfl hn hl, hs⟩
  | @link slash links loc name names target hf hp _ hn hk =>
    obtain rfl : slash = false := hs
    have hmore : names.isEmpty = false := by simpa [Aim.keepsLink] using hk
    exact ⟨.link hf hp rfl hn (by simp [hmore]), by simp [hmore]⟩

theorem Way.name_of_entry {look : Location → Option Node} {w x : Waypoint}
    (h : Way look .entry w x) (hs : w.slash = false) :
    Way look .name w x ∧ x.slash = false := by
  induction h with
  | done w => exact ⟨.done w, hs⟩
  | stride hstride _ ih =>
    obtain ⟨hstride', hslash⟩ := hstride.name_of_entry hs
    obtain ⟨hw, hx⟩ := ih hslash
    exact ⟨.stride hstride' hw, hx⟩

theorem find_name_of_entry {p : Path} (hs : p.endsWithSlash = false) {loc : Location} {node : Node}
    (h : t.find .entry p = .ok (.taken loc node)) : t.find .name p = .ok (.taken loc node) := by
  obtain ⟨hp, w, hw, he⟩ := find_eq_ok_iff.mp h
  obtain ⟨hw', -⟩ := hw.name_of_entry hs
  refine find_eq_ok_iff.mpr ⟨hp, w, hw', ?_⟩
  cases he with
  | taken hn _ => exact .taken hn fun ha => absurd rfl ha
  | kept hf hname _ hn _ => exact .kept hf hname rfl hn rfl

/-- All that removing a folder can do without a failure: a link at the end of the path is gone, or the
folder there is emptied, and it is gone too if the path still leads to it then. -/
theorem removeFolder_eq_none {p : Path} (h : t.removeFolder p = (u, none)) :
    ∃ top, (∃ target, t.find .name p = .ok (.taken top (.link target)) ∧
        t.find .entry p = .ok (.taken top (.link target)) ∧ u = t.erase top) ∨
      t.find .entry p = .ok (.taken top .folder) ∧
        (u = t.eraseBelow top ∨ u = (t.eraseBelow top).erase top) := by
  unfold removeFolder at h
  split at h
  · cases h
  · cases h
  · rename_i top target hfind
    split at h
    · rename_i t' hremove
      obtain rfl : t' = u := congrArg Prod.fst h
      obtain ⟨loc, node, hname, -, hslash, rfl⟩ := removeFile_eq_ok hremove
      have hsame := (find_name_of_entry hslash hfind).symm.trans hname
      obtain ⟨rfl, rfl⟩ := Spot.taken.inj (Except.ok.inj hsame)
      exact ⟨top, .inl ⟨target, hname, hfind, rfl⟩⟩
    · cases h
  · rename_i top hfind
    refine ⟨top, .inr ⟨hfind, ?_⟩⟩
    dsimp only at h
    split at h
    · rename_i t' hremove
      obtain rfl : t' = u := congrArg Prod.fst h
      obtain ⟨loc, hname, rfl⟩ := removeEmptyFolder_eq_ok hremove
      have hthinned : Thinned t (t.eraseBelow top) :=
        thinned_keeping t fun l => l == top || !within top l
      have htarget := find_target_of_folder (hthinned.find hname)
      have hsame := (find_target_of_folder hfind).symm.trans htarget
      obtain ⟨rfl, -⟩ := Spot.taken.inj (Except.ok.inj hsame)
      exact .inr rfl
    · exact .inl (congrArg Prod.fst h).symm
  · cases h

end Conformance.FileTree
