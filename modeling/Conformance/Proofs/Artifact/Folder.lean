import Conformance.Artifact
import Conformance.Proofs.Files.Descent
import Conformance.Proofs.Files.Growth

/-!
# The folder of the artifacts

A folder whose path leads to a location holds an artifact if its names lead down from there to a
file with its content (`Kept`). What leaves the folder untouched leaves the artifact there, and so
does the saving of another one (`Kept.untouched`, `Kept.saved`), as long as below the folder there
are no links and no two names of one file (`Clean`).
-/
namespace Conformance.FileTree

open Conformance.Path (Plain)

/-- The path of a folder leads to a location, in what is seen of a tree. -/
def Leads (look : Location → Option Node) (t : FileTree) (folder : Path) (b : Location) : Prop :=
  ∃ slash links, Way look .target (t.outset folder) ⟨slash, links, b, []⟩

theorem Leads.unique {look : Location → Option Node} {t : FileTree} {folder : Path}
    {b b' : Location} (h : Leads look t folder b) (h' : Leads look t folder b') : b = b' := by
  obtain ⟨s, k, hw⟩ := h
  obtain ⟨s', k', hw'⟩ := h'
  have he := hw.unique hw' rfl rfl
  cases he
  rfl

theorem Leads.opens {look look' : Location → Option Node} {t t' : FileTree} {folder : Path}
    {b : Location} (h : Leads look t folder b) (ho : Opens look look') (hh : t'.here = t.here) :
    Leads look' t' folder b := by
  obtain ⟨s, k, hw⟩ := h
  refine ⟨s, k, ?_⟩
  rw [outset, hh]
  exact hw.opens ho

/-- Where a path leads, it would lead too if all that is missing were folders. -/
theorem Leads.ahead {t : FileTree} {folder : Path} {b : Location}
    (h : Leads t.get? t folder b) : Leads t.ahead t folder b :=
  h.opens (opens_ahead t) rfl

/-- Below a folder there are folders, files and programs only, and no file has two names there. -/
structure Clean (t : FileTree) (b : Location) : Prop where
  no_link : ∀ loc, b <+: loc → loc ≠ b → ∀ target, t.entryAt? loc ≠ some (.link target)
  no_device : ∀ loc, b <+: loc → loc ≠ b → ∀ name, t.entryAt? loc ≠ some (.device name)
  one_name : ∀ loc loc' id, b <+: loc → b <+: loc' → t.entryAt? loc = some (.file id) →
    t.entryAt? loc' = some (.file id) → loc = loc'

/-- What is below the folder of a path, or would be, is clean. -/
def Tidy (t : FileTree) (folder : Path) : Prop :=
  ∀ b, Leads t.ahead t folder b → Clean t b

/-- A tree after something that leaves a folder as it was: its path leads where it led, and there is
what there was. -/
structure Untouched (folder : Path) (t t' : FileTree) : Prop where
  ahead : ∀ b, Leads t'.ahead t' folder b ↔ Leads t.ahead t folder b
  leads : ∀ b, Leads t.get? t folder b → Leads t'.get? t' folder b
  entry : ∀ b, Leads t.ahead t folder b → ∀ loc, b <+: loc → t'.entryAt? loc = t.entryAt? loc
  data : ∀ b, Leads t.ahead t folder b → ∀ loc id, b <+: loc →
    t.entryAt? loc = some (.file id) → t'.dataOf id = t.dataOf id

/-- A folder holds a file with this content, under the last of these names below it. -/
structure Kept (t : FileTree) (folder : Path) (b : Location) (names : List (List Char))
    (content : Bytes) : Prop where
  leads : Leads t.get? t folder b
  descent : Descent t.get? b names
  file : ∃ id, t.entryAt? (along b names) = some (.file id) ∧ (t.dataOf id).content = content

section
variable {t t' : FileTree} {folder : Path} {b : Location} {names : List (List Char)}
  {content : Bytes}

theorem Untouched.refl (folder : Path) (t : FileTree) : Untouched folder t t :=
  ⟨fun _ => .rfl, fun _ h => h, fun _ _ _ _ => rfl, fun _ _ _ _ _ _ => rfl⟩

theorem Untouched.get? (h : Untouched folder t t') (hb : Leads t.ahead t folder b) (loc : Location)
    (hl : b <+: loc) : t'.get? loc = t.get? loc := by
  rw [FileTree.get?, FileTree.get?, h.entry b hb loc hl]
  cases he : t.entryAt? loc with
  | none => rfl
  | some e =>
    refine congrArg some (nodeOf_congr fun id hid => h.data b hb loc id hl ?_)
    rw [he, hid]

theorem Untouched.tidy (h : Untouched folder t t') (ht : Tidy t folder) : Tidy t' folder := by
  intro b hb
  have hb := (h.ahead b).mp hb
  have hc := ht b hb
  constructor
  · intro loc hl hne
    rw [h.entry b hb loc hl]
    exact hc.no_link loc hl hne
  · intro loc hl hne
    rw [h.entry b hb loc hl]
    exact hc.no_device loc hl hne
  · intro loc loc' id hl hl'
    rw [h.entry b hb loc hl, h.entry b hb loc' hl']
    exact hc.one_name loc loc' id hl hl'

theorem Kept.untouched (h : Kept t folder b names content) (hu : Untouched folder t t') :
    Kept t' folder b names content := by
  have hb := h.leads.ahead
  obtain ⟨id, hid, hcontent⟩ := h.file
  have hl := prefix_along b names
  refine ⟨hu.leads b h.leads, h.descent.congr (hu.get? hb) (List.prefix_refl b), id, ?_, ?_⟩
  · rw [hu.entry b hb _ hl, hid]
  · rw [hu.data b hb _ id hl hid, hcontent]

theorem Grown.tidy (h : Grown t t') (ht : Tidy t folder) : Tidy t' folder := by
  intro b hb
  have hb : Leads t.ahead t folder b := by
    rw [h.ahead] at hb
    exact hb.opens (opens_of_some fun _ _ hn => hn) h.here.symm
  have hc := ht b hb
  have hfile {loc : Location} {e : FileEntry} (he : t'.entryAt? loc = some e)
      (hne : e ≠ .folder) : t.entryAt? loc = some e := by
    rcases h.entry loc with hs | ⟨-, hf⟩
    · rw [← hs, he]
    · rw [he] at hf
      exact absurd (Option.some.inj hf) hne
  constructor
  · intro loc hl hne target he
    exact hc.no_link loc hl hne target (hfile he nofun)
  · intro loc hl hne name he
    exact hc.no_device loc hl hne name (hfile he nofun)
  · intro loc loc' id hl hl' he he'
    exact hc.one_name loc loc' id hl hl' (hfile he nofun) (hfile he' nofun)

theorem Kept.grown (h : Kept t folder b names content) (hg : Grown t t') :
    Kept t' folder b names content := by
  obtain ⟨id, hid, hcontent⟩ := h.file
  exact ⟨h.leads.opens hg.opens hg.here, h.descent.opens hg.opens, id, hg.entry_of_some hid,
    by rw [hg.dataOf, hcontent]⟩

/-! ## Paths below the folder -/

theorem outset_below (t : FileTree) (folder : Path) (hp : ∀ name ∈ names, Plain name)
    (hne : names ≠ []) : t.outset (folder.below names) =
      ⟨false, (t.outset folder).links, (t.outset folder).loc,
        (t.outset folder).names ++ names⟩ := by
  rw [outset, Path.endsWithSlash_below folder hp hne, Path.isAbsolute_below folder hp,
    Path.steps_below folder hp]
  rfl

/-- A path below a clean folder leads to the location that its names spell, or nowhere. -/
theorem find_below {aim : Aim} {spot : Spot} (ht : Tidy t folder)
    (hp : ∀ name ∈ names, Plain name) (hne : names ≠ []) (ha : ∀ slash, aim.keepsLink slash = false)
    (h : t.find aim (folder.below names) = .ok spot) :
    ∃ b, Leads t.get? t folder b ∧ spot.loc = along b names ∧
      ∀ loc node, spot = .taken loc node → Descent t.get? b names := by
  obtain ⟨-, u, hw, he⟩ := find_eq_ok_iff.mp h
  have hw := hw.target
  rw [outset_below t folder hp hne] at hw
  rcases hw.split rfl (t.outset folder).slash with ⟨s, s', k, b, hfirst, hrest⟩ | ⟨left, hl, hu⟩
  · have hb : Leads t.get? t folder b := ⟨s, k, hfirst⟩
    have hlink : ∀ l, b <+: l → l ≠ b → ∀ target, t.get? l ≠ some (.link target) := by
      intro l hl hlb target hn
      rw [FileTree.get?, Option.map_eq_some_iff] at hn
      obtain ⟨e, hentry, hnode⟩ := hn
      cases e with
      | link target' => exact (ht b hb.ahead).no_link l hl hlb target' hentry
      | folder | file | program | device => cases hnode
    obtain ⟨passed, hnames, hloc, hd⟩ := hrest.descent hlink (List.prefix_refl b) hp
    refine ⟨b, hb, ?_⟩
    cases he with
    | taken =>
      obtain rfl : names = passed := hnames.trans (List.append_nil _)
      exact ⟨hloc, fun _ _ _ => hd⟩
    | free =>
      obtain rfl : names = passed ++ [_] := hnames
      obtain rfl := hloc
      exact ⟨under_along b passed _, fun _ _ h => by cases h⟩
    | kept _ _ _ _ hk =>
      rw [ha] at hk
      cases hk
  · have hshort : u.names.length ≤ 1 := by
      cases he <;> simp
    rw [hu, List.length_append] at hshort
    have := List.length_pos_iff.mpr hl
    have := List.length_pos_iff.mpr hne
    omega

/-- What is kept below a folder is read there. -/
theorem Kept.read (h : Kept t folder b names content) (hp : ∀ name ∈ names, Plain name)
    (hne : names ≠ []) (hu : Utterable (folder.below names)) :
    t.read (folder.below names) = .ok content := by
  obtain ⟨s, k, hw⟩ := h.leads
  obtain ⟨id, hid, hcontent⟩ := h.file
  have hn : t.get? (along b names) = some (.file content (t.dataOf id).mode) := by
    rw [FileTree.get?, hid, ← hcontent]
    rfl
  have hway : Way t.get? .target (t.outset (folder.below names)) ⟨false, k, along b names, []⟩ := by
    rw [outset_below t folder hp hne]
    exact (hw.append hne .target false).trans (h.descent.way false k)
  have hfind : t.find .target (folder.below names) =
      .ok (.taken (along b names) (.file content (t.dataOf id).mode)) :=
    find_eq_ok_iff.mpr ⟨hu, _, hway, .taken hn fun _ hs => absurd hs Bool.false_ne_true⟩
  rw [FileTree.read, hfind]

/-! ## Saving -/

/-- A tree after a file was written below a folder. -/
structure Saved (t : FileTree) (folder : Path) (b : Location) (names : List (List Char))
    (content : Bytes) (id : FileId) (t' : FileTree) : Prop where
  leads : Leads t.get? t folder b
  written : Written t (along b names) content id t'
  here : t'.here = t.here
  opens : Opens t.get? t'.get?
  found : ∃ mode, t'.find .target (folder.below names) =
    .ok (.taken (along b names) (.file content mode))

/-- What is written below a clean folder is a file at the location that its names spell. -/
theorem saved_of_write (ht : Tidy t folder) (hp : ∀ name ∈ names, Plain name) (hne : names ≠ [])
    (h : t.write (folder.below names) content = .ok t') :
    ∃ b id, Saved t folder b names content id t' := by
  rcases write_eq_ok h with ⟨loc, name, hs, rfl⟩ | ⟨spot, mode, hs, hf, hl, -, rfl⟩
  · obtain ⟨b, hb, hloc, -⟩ := find_below ht hp hne (fun _ => rfl) hs
    have hn := get?_of_find_taken hs
    obtain rfl : loc = along b names := hloc
    rw [FileTree.get?, Option.map_eq_some_iff] at hn
    obtain ⟨e, hentry, hnode⟩ := hn
    cases e with
    | device name' =>
      exact absurd hentry ((ht b hb.ahead).no_device _ (prefix_along b names) (along_ne hne b) _)
    | folder | file | program | link => cases hnode
  · obtain ⟨b, hb, hloc, -⟩ := find_below ht hp hne (fun _ => rfl) hs
    have hr : spot.loc ≠ [] := by
      intro he
      exact hf (by rw [he]; rfl)
    obtain ⟨id, hw⟩ := put_file_written t hr content mode
    have hfind := find_put_file hs hf hl content mode
    have hopens := opens_put_file hr hf hl content mode
    rw [hloc] at hw hfind hopens ⊢
    exact ⟨b, id, hb, hw, here_put _ _ _, hopens, mode, hfind⟩

variable {id : FileId}

/-- The file that was written has one name below the folder, as all others have. -/
theorem Saved.tidy (h : Saved t folder b names content id t') (ht : Tidy t folder) :
    Tidy t' folder := by
  intro b' hb'
  obtain rfl := hb'.unique (h.leads.opens h.opens h.here).ahead
  have hc := ht b' h.leads.ahead
  have hself := h.written.self
  have hfresh {l : Location} (hb : b' <+: l) (hl : l ≠ along b' names) :
      t'.entryAt? l ≠ some (.file id) := by
    intro he
    rw [h.written.other l hl] at he
    rcases h.written.file with hf | hf
    · exact hl (hc.one_name l _ id hb (prefix_along b' names) he hf)
    · exact absurd hf (Nat.not_le_of_lt (t.known_of_entryAt? he))
  constructor
  · intro loc hb hne target he
    by_cases hl : loc = along b' names
    · rw [hl, hself] at he
      cases he
    · exact hc.no_link loc hb hne target (h.written.other loc hl ▸ he)
  · intro loc hb hne name he
    by_cases hl : loc = along b' names
    · rw [hl, hself] at he
      cases he
    · exact hc.no_device loc hb hne name (h.written.other loc hl ▸ he)
  · intro loc loc' i hb hb' he he'
    by_cases hl : loc = along b' names
    · subst hl
      obtain rfl : id = i := by
        rw [hself] at he
        exact FileEntry.file.inj (Option.some.inj he)
      exact Decidable.byContradiction fun hne => hfresh hb' (Ne.symm hne) he'
    · by_cases hl' : loc' = along b' names
      · subst hl'
        obtain rfl : id = i := by
          rw [hself] at he'
          exact FileEntry.file.inj (Option.some.inj he')
        exact absurd he (hfresh hb hl)
      · rw [h.written.other loc hl] at he
        rw [h.written.other loc' hl'] at he'
        exact hc.one_name loc loc' i hb hb' he he'

/-- What was kept before stays, if the new file has other names. -/
theorem Kept.saved {b' : Location} {others : List (List Char)} {content' : Bytes}
    (h : Kept t folder b' others content') (hs : Saved t folder b names content id t')
    (ht : Tidy t folder) (hne : others ≠ names) : Kept t' folder b' others content' := by
  obtain rfl := h.leads.unique hs.leads
  obtain ⟨i, hi, hcontent⟩ := h.file
  have hl : along b' others ≠ along b' names := fun he => hne (along_inj he)
  have hid : i ≠ id := by
    rintro rfl
    rcases hs.written.file with hf | hf
    · exact hl ((ht b' h.leads.ahead).one_name _ _ i (prefix_along _ _) (prefix_along _ _) hi hf)
    · exact absurd hf (Nat.not_le_of_lt (t.known_of_entryAt? hi))
  refine ⟨h.leads.opens hs.opens hs.here, h.descent.opens hs.opens, i, ?_, ?_⟩
  · rw [hs.written.other _ hl, hi]
  · rw [hs.written.data i (t.known_of_entryAt? hi) hid, hcontent]

/-- What was saved is kept. -/
theorem Saved.kept (h : Saved t folder b names content id t') (ht : Tidy t folder)
    (hp : ∀ name ∈ names, Plain name) (hne : names ≠ []) : Kept t' folder b names content := by
  obtain ⟨mode, hfind⟩ := h.found
  have hleads := h.leads.opens h.opens h.here
  obtain ⟨b', hb', -, hd⟩ := find_below (h.tidy ht) hp hne (fun _ => rfl) hfind
  obtain rfl := hleads.unique hb'
  exact ⟨hleads, hd _ _ rfl, id, h.written.self, h.written.content⟩

end
end Conformance.FileTree

namespace Conformance.Artifact

open FileTree (Grown)

/-- Saving makes folders, and then may write the file. -/
theorem save_cases (t : FileTree) (path : Path) (content : Bytes) :
    ∃ t', Grown t t' ∧ (save t path content = (t', false) ∨
      ∃ t'', t'.write path content = .ok t'' ∧ save t path content = (t'', true)) := by
  unfold save
  cases path.parent? with
  | none =>
    refine ⟨t, .refl t, ?_⟩
    dsimp only
    cases hw : t.write path content with
    | error e => exact .inl rfl
    | ok t'' => exact .inr ⟨t'', rfl, rfl⟩
  | some above =>
    have hg := FileTree.makeFolders_grown t above
    obtain ⟨t', failure, hm⟩ : ∃ t' failure, t.makeFolders above = (t', failure) := ⟨_, _, rfl⟩
    rw [hm] at hg
    refine ⟨t', hg, ?_⟩
    dsimp only
    rw [hm]
    cases failure with
    | some e => exact .inl rfl
    | none =>
      dsimp only
      cases hw : t'.write path content with
      | error e => exact .inl rfl
      | ok t'' => exact .inr ⟨t'', rfl, rfl⟩

end Conformance.Artifact
