import Conformance.Proofs.Files.Contents

/-!
# Trees that grow

Making folders adds folders where nothing stood and changes nothing else (`makeFolders_grown`). So a
path leads where it would have led had all that is missing been folders (`ahead`). Writing a file
changes what its location stands for, and one file's content (`Written`).
-/
namespace Conformance.FileTree

/-- A tree with more folders, where nothing stood. -/
structure Grown (t t' : FileTree) : Prop where
  here : t'.here = t.here
  held : t'.held = t.held
  entry : ∀ loc, t'.entryAt? loc = t.entryAt? loc ∨
    (t.entryAt? loc = none ∧ t'.entryAt? loc = some .folder)

theorem Grown.refl (t : FileTree) : Grown t t :=
  ⟨rfl, rfl, fun _ => .inl rfl⟩

theorem Grown.trans {t u v : FileTree} (h : Grown t u) (k : Grown u v) : Grown t v where
  here := k.here.trans h.here
  held := k.held.trans h.held
  entry loc := by
    rcases h.entry loc with he | ⟨hn, hf⟩
    · rcases k.entry loc with he' | ⟨hn', hf'⟩
      · exact .inl (he'.trans he)
      · exact .inr ⟨he ▸ hn', hf'⟩
    · rcases k.entry loc with he' | ⟨hn', -⟩
      · exact .inr ⟨hn, he'.trans hf⟩
      · rw [hf] at hn'
        cases hn'

theorem Grown.dataOf {t t' : FileTree} (h : Grown t t') : t'.dataOf = t.dataOf := by
  funext id
  rw [FileTree.dataOf, FileTree.dataOf, h.held]

theorem Grown.entry_of_some {t t' : FileTree} (h : Grown t t') {loc : Location} {e : FileEntry}
    (he : t.entryAt? loc = some e) : t'.entryAt? loc = some e := by
  rcases h.entry loc with hs | ⟨hn, -⟩
  · exact hs.trans he
  · rw [he] at hn
    cases hn

theorem Grown.get? {t t' : FileTree} (h : Grown t t') (loc : Location) :
    t'.get? loc = t.get? loc ∨ (t.get? loc = none ∧ t'.get? loc = some .folder) := by
  have hnode (e : FileEntry) : t'.nodeOf e = t.nodeOf e := nodeOf_congr fun _ _ => by rw [h.dataOf]
  unfold FileTree.get?
  rcases h.entry loc with he | ⟨hn, hf⟩
  · left
    rw [he]
    cases t.entryAt? loc with
    | none => rfl
    | some e => exact congrArg some (hnode e)
  · exact .inr ⟨by rw [hn]; rfl, by rw [hf]; rfl⟩

/-- Whatever is seen stays. -/
theorem opens_of_some {look look' : Location → Option Node}
    (h : ∀ loc node, look loc = some node → look' loc = some node) : Opens look look' where
  folder hf := h _ _ hf
  link hl := h _ _ hl
  other hn hl := ⟨_, h _ _ hn, hl⟩

theorem Grown.opens {t t' : FileTree} (h : Grown t t') : Opens t.get? t'.get? := by
  refine opens_of_some fun loc node hn => ?_
  rcases h.get? loc with he | ⟨hnone, -⟩
  · exact he.trans hn
  · rw [hn] at hnone
    cases hnone

/-- What would be seen if all that is missing were folders. -/
def ahead (t : FileTree) (loc : Location) : Option Node :=
  some ((t.get? loc).getD .folder)

theorem opens_ahead (t : FileTree) : Opens t.get? t.ahead :=
  opens_of_some fun _ _ hn => by rw [ahead, hn]; rfl

theorem Grown.ahead {t t' : FileTree} (h : Grown t t') : t'.ahead = t.ahead := by
  funext loc
  rw [FileTree.ahead, FileTree.ahead]
  rcases h.get? loc with he | ⟨hn, hf⟩
  · rw [he]
  · rw [hn, hf]
    rfl

theorem makeFolder_grown {t t' : FileTree} {p : Path} (h : t.makeFolder p = .ok t') :
    Grown t t' := by
  unfold makeFolder at h
  split at h
  · cases h
  · rename_i loc hs
    obtain rfl := Except.ok.inj h
    have hn := get?_of_find_free hs
    have hentry : t.entryAt? loc = none := by simpa [FileTree.get?] using hn
    refine ⟨rfl, rfl, fun other => ?_⟩
    by_cases ho : other = loc
    · subst ho
      have hr : other ≠ [] := by
        rintro rfl
        cases hentry
      exact .inr ⟨hentry, entryAt?_enter_self t hr .folder (by simp)⟩
    · exact .inl (entryAt?_enter_other t ho .folder (by simp))
  · cases h

/-- However far the making of folders comes, it only adds folders. -/
theorem makeFoldersWithin_grown (t : FileTree) (p : Path) (depth : Nat) :
    Grown t (t.makeFoldersWithin p depth).1 := by
  induction depth generalizing t p with
  | zero => exact .refl t
  | succ depth ih =>
    unfold makeFoldersWithin
    split
    · exact .refl t
    split
    · rename_i t' h
      exact makeFolder_grown h
    · split
      · exact .refl t
      · rename_i above _
        have habove := ih t above
        split
        · rename_i t' e h
          rwa [h] at habove
        · rename_i t' h
          rw [h] at habove
          split
          · rename_i t'' h'
            exact habove.trans (makeFolder_grown h')
          · exact habove
    · exact .refl t

theorem makeFolders_grown (t : FileTree) (p : Path) : Grown t (t.makeFolders p).1 :=
  makeFoldersWithin_grown t p _

/-- A tree in which a location stands for the file `id`, which holds `content`. The file may have
stood there before, or is new. -/
structure Written (t : FileTree) (loc : Location) (content : Bytes) (id : FileId)
    (t' : FileTree) : Prop where
  self : t'.entryAt? loc = some (.file id)
  other : ∀ l, l ≠ loc → t'.entryAt? l = t.entryAt? l
  content : (t'.dataOf id).content = content
  data : ∀ i, i < t.held.size → i ≠ id → t'.dataOf i = t.dataOf i
  file : t.entryAt? loc = some (.file id) ∨ t.held.size ≤ id

theorem put_file_written (t : FileTree) {loc : Location} (h : loc ≠ []) (content : Bytes)
    (mode : Nat) : ∃ id, Written t loc content id (t.put loc (.file content mode)) := by
  cases hf : t.fileAt? loc with
  | some id =>
    rw [fileAt?_eq_some] at hf
    rw [put_file_of_file t hf]
    refine ⟨id, hf, fun l _ => rfl, ?_, fun i _ hi => dataOf_change_other t _ hi, .inl hf⟩
    rw [dataOf_change_self t _ (t.known_of_entryAt? hf)]
  | none =>
    rw [put_file_of_none t hf]
    refine ⟨t.held.size, entryAt?_enter_self _ h _ _, fun l hl => ?_, ?_, fun i hi _ => ?_,
      .inr (Nat.le_refl _)⟩
    · exact entryAt?_enter_other _ hl _ _
    · rw [create, dataOf_enter, dataOf_extend_self]
    · rw [create, dataOf_enter, dataOf_extend_other t _ hi]

end Conformance.FileTree
