import Conformance.Proofs.Artifact.Folder
import Conformance.Proofs.Files.Spelling
import Mathlib.Data.List.Induction

/-!
# Where an artifact can be saved

A road below a folder is made of names that lead to folders or to nothing, and no link or file
stands on it. Making folders along a road succeeds and adds nothing elsewhere
(`makeFoldersWithin_road`), however the folder itself is spelled (`Leads.of_components`). So an
artifact is saved at the end of every road where nothing stands (`save_road`).
-/
namespace Conformance.FileTree

open Conformance.Path (Plain)

variable {t t' : FileTree} {folder : Path} {b : Location} {names : List (List Char)}

/-- A path that leads to a folder does so in all its spellings. -/
theorem Leads.of_components {look : Location → Option Node} (h : Leads look t folder b)
    (hf : look b = some .folder) {q : Path} (hc : q.components = folder.components) :
    Leads look t q b := by
  obtain ⟨s, links, hw⟩ := h
  have hstart : q.isAbsolute = folder.isAbsolute := by
    rw [Bool.eq_iff_iff, Path.isAbsolute_iff_root, Path.isAbsolute_iff_root, hc]
  have hmoves : q.moves = folder.moves := congrArg (List.filterMap _) hc
  have hundotted (p : Path) : Undotted (steps p) p.moves := by
    rw [← Path.filter_steps]
    exact undotted_filter (steps p)
  obtain ⟨s', hw'⟩ := hw.undotted rfl (hundotted folder) false
  obtain ⟨s'', hw''⟩ := hw'.redotted rfl hf (by rw [← hmoves]; exact hundotted q) q.endsWithSlash
  refine ⟨s'', links, ?_⟩
  rw [outset, hstart]
  exact hw''

theorem Utterable.of_prefix {p q : Path} (h : Utterable p) (hq : q.chars <+: p.chars) :
    q.chars = [] ∨ Utterable q := by
  refine or_iff_not_imp_left.mpr fun hne => ⟨?_, hne, ?_⟩
  · rw [Bool.eq_false_iff]
    intro hnul
    have hmem := hq.subset (List.contains_iff_mem.mp hnul)
    exact absurd (List.contains_iff_mem.mpr hmem) (Bool.eq_false_iff.mp h.no_nul)
  · obtain ⟨rest, hrest⟩ := hq
    have hlength := h.fits
    rw [← hrest, Text.byteLength_append] at hlength
    omega

/-- Making a folder that is there already is no failure. -/
theorem makeFoldersWithin_present {q : Path} (h : Leads t.get? t q b)
    (hf : t.get? b = some .folder) (hq : q.chars = [] ∨ Utterable q) (depth : Nat) :
    t.makeFoldersWithin q (depth + 1) = (t, none) := by
  rw [makeFoldersWithin]
  rcases hq with hnil | hq
  · rw [if_pos hnil]
  obtain ⟨s, links, hw⟩ := h
  have he : Ends t.get? .target ⟨s, links, b, []⟩ (.taken b .folder) := .taken hf fun _ _ => rfl
  obtain ⟨v, loc, node, hv, hn, -⟩ := hw.name_of_target he
  have hname : t.find .name q = .ok (.taken loc node) := find_eq_ok_iff.mpr ⟨hq, v, hv, hn⟩
  have htarget : t.find .target q = .ok (.taken b .folder) := find_eq_ok_iff.mpr ⟨hq, _, hw, he⟩
  have hmake : t.makeFolder q = .error .present := by rw [makeFolder, hname]
  have hfolder : t.isFolder q = true := by
    rw [isFolder, node?, htarget]
    rfl
  rw [if_neg hq.nonempty, hmake]
  simp only [hfolder, if_true]

/-! ## Roads -/

/-- Names below a location that lead to folders, or to nothing. -/
def Road (look : Location → Option Node) (loc : Location) (names : List (List Char)) : Prop :=
  ∀ passed, passed ≠ [] → passed <+: names →
    look (along loc passed) = none ∨ look (along loc passed) = some .folder

theorem Road.cons {look : Location → Option Node} {loc : Location} {name : List Char}
    (h : Road look loc (name :: names)) :
    (look (under loc name) = none ∨ look (under loc name) = some .folder) ∧
      Road look (under loc name) names := by
  refine ⟨h [name] (List.cons_ne_nil _ _) (List.prefix_append [name] names), ?_⟩
  intro passed _ hpassed
  rw [along_cons]
  exact h (name :: passed) (List.cons_ne_nil _ _) (List.cons_prefix_cons.mpr ⟨rfl, hpassed⟩)

theorem Road.of_prefix {look : Location → Option Node} {loc : Location}
    {passed : List (List Char)} (h : Road look loc names) (hp : passed <+: names) :
    Road look loc passed :=
  fun others hne hothers => h others hne (hothers.trans hp)

/-- Growing makes folders on a road, and puts nothing else there. -/
theorem Road.grown {loc : Location} (h : Road t.get? loc names) (hg : Grown t t') :
    Road t'.get? loc names := by
  intro passed hne hpassed
  rcases hg.get? (along loc passed) with hsame | ⟨-, hfolder⟩
  · rw [hsame]
    exact h passed hne hpassed
  · exact .inr hfolder

/-- All folders of a road are there, or what lies behind them is missing for want of them. -/
theorem Road.descent_or_missing (h : Road t.get? b names) (hb : t.get? b = some .folder)
    (hp : ∀ name ∈ names, Proper name) (links : Nat) (name : List Char) :
    (Descent t.get? b names ∧ t.get? (along b names) = some .folder) ∨
      names ≠ [] ∧ t.followFrom .name ⟨false, links, b, names ++ [name]⟩ = .error .missing := by
  induction names generalizing b with
  | nil =>
    rw [along, List.map_nil, List.append_nil]
    exact .inl ⟨.done b, hb⟩
  | cons first names ih =>
    obtain ⟨hfirst, hrest⟩ := h.cons
    obtain ⟨hproper, hothers⟩ := List.forall_mem_cons.mp hp
    rcases hfirst with hnone | hfolder
    · refine .inr ⟨List.cons_ne_nil _ _, ?_⟩
      have hadmits : Admits .name false (names ++ [name]) := rfl
      rw [followFrom, List.cons_append, follow_proper hb hproper hadmits, hnone]
      simp
    · have hstride : Stride t.get? .name ⟨false, links, b, first :: (names ++ [name])⟩
          ⟨false, links, under b first, names ++ [name]⟩ :=
        .down hb hproper rfl hfolder folder_ne_link
      rcases ih hrest hfolder hothers with ⟨hd, hf⟩ | ⟨-, hmissing⟩
      · rw [along_cons] at hf
        exact .inl ⟨.down hb hproper hfolder folder_ne_link hd, hf⟩
      · exact .inr ⟨List.cons_ne_nil _ _, (followFrom_stride hstride).trans hmissing⟩

/-- A path below a folder is followed from there. -/
theorem Leads.find_below (h : Leads t.get? t folder b) (hp : ∀ name ∈ names, Plain name)
    (hne : names ≠ []) (hu : Utterable (folder.below names)) :
    ∃ links, ∀ aim, t.find aim (folder.below names) =
      t.followFrom aim ⟨false, links, b, names⟩ := by
  obtain ⟨s, links, hw⟩ := h
  refine ⟨links, fun aim => ?_⟩
  rw [find_of_utterable hu, outset_below t folder hp hne]
  exact followFrom_way (hw.append hne aim false)

section
variable {above : List (List Char)} {name : List Char}

/-- The last name of a road leads to a free place or to a folder, if all folders above are there. -/
theorem Leads.find_last (h : Leads t.get? t folder b) (hp : ∀ n ∈ above ++ [name], Plain n)
    (hu : Utterable (folder.below (above ++ [name]))) (hd : Descent t.get? b above)
    (hf : t.get? (along b above) = some .folder) (hname : Proper name) (aim : Aim) :
    (t.get? (along b (above ++ [name])) = none →
      t.find aim (folder.below (above ++ [name])) = .ok (.free (along b (above ++ [name])))) ∧
    (t.get? (along b (above ++ [name])) = some .folder →
      t.find aim (folder.below (above ++ [name])) =
        .ok (.taken (along b (above ++ [name])) .folder)) := by
  obtain ⟨links, hfind⟩ := h.find_below hp (List.concat_ne_nil _ _) hu
  have hway : Way t.get? aim ⟨false, links, b, above ++ [name]⟩
      ⟨false, links, along b above, [name]⟩ :=
    (hd.way false links).append (List.cons_ne_nil name []) aim false
  have hadmits : Admits aim false [] := by simp [Admits]
  rw [hfind aim, followFrom_way hway, ← under_along]
  constructor
  · intro hnone
    exact followFrom_ends (.free hf hname hadmits hnone)
  · intro hfolder
    rw [followFrom_stride (.down hf hname hadmits hfolder folder_ne_link)]
    exact followFrom_ends (.taken hfolder fun _ _ => rfl)

/-- A tree in which the folders of a road are there, and nothing else is new. -/
structure Paved (t : FileTree) (b : Location) (names : List (List Char)) (t' : FileTree) :
    Prop where
  grown : Grown t t'
  descent : Descent t'.get? b names
  folder : t'.get? (along b names) = some .folder
  elsewhere : ∀ loc, t'.entryAt? loc = t.entryAt? loc ∨
    ∃ passed, passed ≠ [] ∧ passed <+: names ∧ loc = along b passed

theorem Paved.trans {t'' : FileTree} (h : Paved t b above t')
    (k : Paved t' b (above ++ [name]) t'') : Paved t b (above ++ [name]) t'' where
  grown := h.grown.trans k.grown
  descent := k.descent
  folder := k.folder
  elsewhere loc := by
    rcases k.elsewhere loc with hsame | hpassed
    · rcases h.elsewhere loc with hsame' | ⟨passed, hne, hpassed, hloc⟩
      · exact .inl (hsame.trans hsame')
      · exact .inr ⟨passed, hne, hpassed.trans (List.prefix_append _ _), hloc⟩
    · exact .inr hpassed

/-- Behind the road nothing is new. -/
theorem Paved.last (h : Paved t b above t') (hn : t.entryAt? (along b (above ++ [name])) = none) :
    t'.entryAt? (along b (above ++ [name])) = none := by
  rcases h.elsewhere (along b (above ++ [name])) with hsame | ⟨passed, -, hpassed, hloc⟩
  · rw [hsame, hn]
  · have hlength := hpassed.length_le
    rw [← along_inj hloc, List.length_append, List.length_singleton] at hlength
    omega

/-- The parent of names below a folder is the folder, or the last but one of the names in the very
same spelling. -/
theorem parent?_below (folder : Path) (hp : ∀ n ∈ above ++ [name], Plain n) :
    ∃ q, (folder.below (above ++ [name])).parent? = some q ∧
      (above = [] ∧ q.components = folder.components ∨
        above ≠ [] ∧ q = folder.below above) := by
  have hname : Plain name := hp name (by simp)
  rcases List.eq_nil_or_concat above with rfl | ⟨init, last, rfl⟩
  · obtain ⟨q, hq, hcomponents⟩ := Path.exists_parent?_join folder hname
    exact ⟨q, hq, .inl ⟨rfl, hcomponents⟩⟩
  · rw [List.concat_eq_append] at hp ⊢
    have hlast : Plain last := hp last (by simp)
    refine ⟨_, ?_, .inr ⟨List.concat_ne_nil _ _, rfl⟩⟩
    rw [Path.below_append, Path.below_append]
    exact Path.parent?_join_join (folder.below init) hlast hname

/-- The last folder of a road is made, or was there. -/
theorem Leads.makeFolder_last (h : Leads t.get? t folder b)
    (hp : ∀ n ∈ above ++ [name], Plain n) (hu : Utterable (folder.below (above ++ [name])))
    (hd : Descent t.get? b above) (hf : t.get? (along b above) = some .folder)
    (hname : Proper name) (hlast : t.get? (along b (above ++ [name])) = none ∨
      t.get? (along b (above ++ [name])) = some .folder) :
    ∃ t', Paved t b (above ++ [name]) t' ∧
      (t.makeFolder (folder.below (above ++ [name])) = .ok t' ∨
        t' = t ∧ t.makeFolder (folder.below (above ++ [name])) = .error .present ∧
          t.isFolder (folder.below (above ++ [name])) = true) := by
  have hne : above ++ [name] ≠ [] := List.concat_ne_nil _ _
  rcases hlast with hnone | hfolder
  · have hfind := (h.find_last hp hu hd hf hname .name).1 hnone
    have hmake : t.makeFolder (folder.below (above ++ [name])) =
        .ok (t.put (along b (above ++ [name])) .folder) := by rw [makeFolder, hfind]
    have hgrown := makeFolder_grown hmake
    have hself := get?_put_folder_self t (along b (above ++ [name]))
    have habove : (t.put (along b (above ++ [name])) .folder).get? (along b above) =
        some .folder := by
      rcases hgrown.get? (along b above) with hsame | ⟨-, hfolder⟩
      · rw [hsame, hf]
      · exact hfolder
    refine ⟨_, ⟨hgrown, (hd.opens hgrown.opens).snoc habove hname hself folder_ne_link, hself, ?_⟩,
      .inl hmake⟩
    intro loc
    by_cases hloc : loc = along b (above ++ [name])
    · exact .inr ⟨_, hne, List.prefix_rfl, hloc⟩
    · exact .inl (entryAt?_enter_other t hloc .folder (by simp))
  · have hfind := (h.find_last hp hu hd hf hname .name).2 hfolder
    have htarget := (h.find_last hp hu hd hf hname .target).2 hfolder
    refine ⟨t, ⟨.refl t, hd.snoc hf hname hfolder folder_ne_link, hfolder, fun _ => .inl rfl⟩,
      .inr ⟨rfl, ?_, ?_⟩⟩
    · rw [makeFolder, hfind]
    · rw [isFolder, node?, htarget]
      rfl

end

/-- Making folders along a road succeeds. -/
theorem makeFoldersWithin_road (h : Leads t.get? t folder b) (hb : t.get? b = some .folder)
    (hne : names ≠ []) (hroad : Road t.get? b names) (hp : ∀ n ∈ names, Plain n)
    (hproper : ∀ n ∈ names, Proper n) (hu : Utterable (folder.below names)) {depth : Nat}
    (hdepth : names.length ≤ depth) :
    ∃ t', t.makeFoldersWithin (folder.below names) depth = (t', none) ∧ Paved t b names t' := by
  induction names using List.reverseRecOn generalizing depth with
  | nil => exact absurd rfl hne
  | append_singleton above name ih =>
    have hname : Proper name := hproper name (by simp)
    have hlast := hroad (above ++ [name]) hne List.prefix_rfl
    have habove : ∀ n ∈ above, n ∈ above ++ [name] := fun n hn => List.mem_append_left _ hn
    obtain ⟨depth, rfl⟩ : ∃ d, depth = d + 1 :=
      Nat.exists_eq_add_one_of_ne_zero (by
        rw [List.length_append, List.length_singleton] at hdepth
        omega)
    rw [makeFoldersWithin, if_neg hu.nonempty]
    obtain ⟨links, hfind⟩ := h.find_below hp hne hu
    rcases (hroad.of_prefix (List.prefix_append above [name])).descent_or_missing hb
      (fun n hn => hproper n (habove n hn)) links name with ⟨hd, hf⟩ | ⟨hne', hmissing⟩
    · obtain ⟨t', hpaved, hmake | ⟨rfl, hmake, hfolder⟩⟩ :=
        h.makeFolder_last hp hu hd hf hname hlast
      · rw [hmake]
        exact ⟨t', rfl, hpaved⟩
      · rw [hmake]
        simp only [hfolder, if_true]
        exact ⟨t', rfl, hpaved⟩
    · have hmake : t.makeFolder (folder.below (above ++ [name])) = .error .missing := by
        rw [makeFolder, hfind, hmissing]
      obtain ⟨q, hparent, ⟨hnil, -⟩ | ⟨-, rfl⟩⟩ := parent?_below folder hp
      · exact absurd hnil hne'
      have hu' : Utterable (folder.below above) := by
        refine (hu.of_prefix (Path.chars_parent? hparent)).resolve_left (Path.chars_ne_nil ?_)
        rw [Path.components_below folder fun n hn => hp n (habove n hn)]
        exact List.append_ne_nil_of_right_ne_nil _ (by simpa using hne')
      have hshort : above.length ≤ depth := by
        rw [List.length_append, List.length_singleton] at hdepth
        omega
      obtain ⟨t₁, hmade, hpaved⟩ := ih hne' (hroad.of_prefix (List.prefix_append _ _))
        (fun n hn => hp n (habove n hn)) (fun n hn => hproper n (habove n hn)) hu' hshort
      have hleads := h.opens hpaved.grown.opens hpaved.grown.here
      rw [hmake]
      simp only [hparent, hmade]
      obtain ⟨t', hpaved', hmake' | ⟨rfl, hmake', hfolder⟩⟩ :=
        hleads.makeFolder_last hp hu hpaved.descent hpaved.folder hname
          (hroad.grown hpaved.grown _ hne List.prefix_rfl)
      · rw [hmake']
        exact ⟨t', rfl, hpaved.trans hpaved'⟩
      · rw [hmake']
        simp only [hfolder, if_true]
        exact ⟨t', rfl, hpaved.trans hpaved'⟩

theorem length_le_below (folder : Path) (hp : ∀ n ∈ names, Plain n) :
    names.length ≤ (folder.below names).chars.length := by
  induction names using List.reverseRecOn with
  | nil => exact Nat.zero_le _
  | append_singleton above name ih =>
    have hname : Plain name := hp name (by simp)
    have hlength := ih fun n hn => hp n (List.mem_append_left _ hn)
    have hpos := List.length_pos_iff.mpr hname.nonempty
    rw [Path.below_append, Path.below_singleton, Path.chars_join _ hname]
    simp only [List.length_append, List.length_singleton]
    omega

theorem ne_root_of_none {loc : Location} (h : t.entryAt? loc = none) : loc ≠ [] := by
  rintro rfl
  cases h

/-- A file in a free place closes no way. -/
theorem opens_put_free {loc : Location} (h : t.entryAt? loc = none) (content : Bytes)
    (mode : Nat) : Opens t.get? (t.put loc (.file content mode)).get? := by
  have hnone : t.get? loc = none := by rw [FileTree.get?, h, Option.map_none]
  refine opens_put_file (ne_root_of_none h) ?_ (fun target => ?_) content mode
  · rw [hnone]
    exact (Option.some_ne_none _).symm
  · rw [hnone]
    exact (Option.some_ne_none _).symm

/-- An artifact is saved at the end of a road where nothing stands. -/
theorem save_road {above : List (List Char)} {name : List Char} (h : Leads t.get? t folder b)
    (hb : t.get? b = some .folder) (hroad : Road t.get? b above)
    (hfree : t.entryAt? (along b (above ++ [name])) = none) (hp : ∀ n ∈ above ++ [name], Plain n)
    (hproper : ∀ n ∈ above ++ [name], Proper n) (hu : Utterable (folder.below (above ++ [name])))
    (content : Bytes) :
    ∃ u, Paved t b above u ∧ Artifact.save t (folder.below (above ++ [name])) content =
      (u.put (along b (above ++ [name])) (.plain content), true) := by
  have habove : ∀ n ∈ above, n ∈ above ++ [name] := fun n hn => List.mem_append_left _ hn
  obtain ⟨q, hparent, hq⟩ := parent?_below folder hp
  have hbefore := hu.of_prefix (Path.chars_parent? hparent)
  obtain ⟨u, hmade, hpaved⟩ : ∃ u, t.makeFolders q = (u, none) ∧ Paved t b above u := by
    rcases hq with ⟨rfl, hcomponents⟩ | ⟨hne, rfl⟩
    · have hroot : along b [] = b := List.append_nil b
      exact ⟨t, makeFoldersWithin_present (h.of_components hb hcomponents) hb hbefore _, .refl t,
        .done b, by rw [hroot, hb], fun _ => .inl rfl⟩
    · have hp' : ∀ n ∈ above, Plain n := fun n hn => hp n (habove n hn)
      have hchars : (folder.below above).chars ≠ [] := by
        have hlength := length_le_below folder hp'
        exact List.ne_nil_of_length_pos (Nat.lt_of_lt_of_le (List.length_pos_iff.mpr hne) hlength)
      exact makeFoldersWithin_road h hb hne hroad hp' (fun n hn => hproper n (habove n hn))
        (hbefore.resolve_left hchars) (Nat.le_add_right_of_le (length_le_below folder hp'))
  refine ⟨u, hpaved, ?_⟩
  have hnone : u.get? (along b (above ++ [name])) = none := by
    rw [FileTree.get?, hpaved.last hfree]
    rfl
  have hleads := h.opens hpaved.grown.opens hpaved.grown.here
  have hfind := (hleads.find_last hp hu hpaved.descent hpaved.folder (hproper name (by simp))
    .content).1 hnone
  rw [Artifact.save, hparent]
  simp only [hmade, write, hfind]

end Conformance.FileTree
