import Conformance.Files.Resolve

/-!
# Paths below a folder

A folder's path with plain names behind it has the steps and the components of the folder, and then
those names (`steps_below`, `components_below`). So different names lead to different paths
(`same_below`).
-/
namespace Conformance.Path

/-- A part of a path that asks for an entry of its own. -/
structure Plain (part : List Char) : Prop where
  nonempty : part ≠ []
  no_slash : ∀ c ∈ part, isSlash c = false
  not_here : part ≠ ['.']
  not_parent : part ≠ ['.', '.']

/-- The path of what has the last name, below the others, in a folder. -/
def below (folder : Path) (names : List (List Char)) : Path :=
  names.foldl (fun p name => p.join (.ofChars name)) folder

@[simp] theorem chars_ofChars (s : List Char) : (ofChars s).chars = s :=
  String.toList_ofList

theorem ofChars_chars (p : Path) : ofChars p.chars = p := by
  cases p
  simp [ofChars, chars]

theorem below_append (folder : Path) (names more : List (List Char)) :
    folder.below (names ++ more) = (folder.below names).below more :=
  List.foldl_append

theorem below_singleton (folder : Path) (name : List Char) :
    folder.below [name] = folder.join (.ofChars name) := rfl

/-- What stands between a folder and a name in it. -/
def glue (p : Path) : List Char :=
  if p.chars = [] ∨ p.endsWithSlash then [] else ['/']

theorem Plain.not_absolute {name : List Char} (h : Plain name) :
    (ofChars name).isAbsolute = false := by
  cases name with
  | nil => exact absurd rfl h.nonempty
  | cons c cs =>
    have hc : c ≠ '/' := by
      rintro rfl
      exact absurd (h.no_slash '/' List.mem_cons_self) (by decide)
    simpa [isAbsolute] using hc

theorem chars_join (p : Path) {name : List Char} (h : Plain name) :
    (p.join (.ofChars name)).chars = p.chars ++ p.glue ++ name := by
  unfold join glue
  rw [h.not_absolute]
  by_cases hp : p.chars = [] ∨ p.endsWithSlash = true
  · simp [hp]
  · simp [hp]

/-- The parts of a name in a folder are those of the folder, less the empty one behind its last
slash, and the name. -/
theorem parts_join (p : Path) {name : List Char} (h : Plain name) :
    (p.chars = [] ∧ (p.join (.ofChars name)).parts = [name]) ∨
      ∃ above, above ≠ [] ∧ (p.parts = above ∨ p.parts = above ++ [[]]) ∧
        (p.join (.ofChars name)).parts = above ++ [name] := by
  have hname : Text.splitOn isSlash name = [name] := Text.splitOn_of_none h.no_slash
  rw [parts, chars_join p h]
  by_cases h0 : p.chars = []
  · exact .inl ⟨h0, by simp [glue, h0, hname]⟩
  right
  cases hs : p.endsWithSlash with
  | true =>
    obtain ⟨s, hp⟩ : ∃ s, p.chars = s ++ ['/'] := by
      rw [endsWithSlash, beq_iff_eq, List.getLast?_eq_some_iff] at hs
      exact hs
    refine ⟨Text.splitOn isSlash s, Text.splitOn_ne_nil _ _, .inr ?_, ?_⟩
    · rw [parts, hp, Text.splitOn_append_cons (by decide)]
      rfl
    · rw [glue, if_pos (.inr hs), List.append_nil, hp, List.append_assoc, List.singleton_append,
        Text.splitOn_append_cons (by decide), hname]
  | false =>
    refine ⟨p.parts, Text.splitOn_ne_nil _ _, .inl rfl, ?_⟩
    rw [glue, if_neg (by simp [h0, hs]), List.append_assoc, List.singleton_append,
      Text.splitOn_append_cons (by decide), hname]
    rfl

theorem component?_plain {name : List Char} (h : Plain name) :
    component? name = some (.name name) := by
  simp [component?, h.nonempty, h.not_here, h.not_parent]

theorem isAbsolute_join (p : Path) {name : List Char} (h : Plain name) :
    (p.join (.ofChars name)).isAbsolute = p.isAbsolute := by
  have hname := h.not_absolute
  unfold isAbsolute at hname ⊢
  rw [chars_join p h]
  cases hp : p.chars with
  | nil => simpa [glue, hp] using hname
  | cons c cs => simp

theorem endsWithSlash_join (p : Path) {name : List Char} (h : Plain name) :
    (p.join (.ofChars name)).endsWithSlash = false := by
  rw [endsWithSlash, chars_join p h]
  rcases List.eq_nil_or_concat name with rfl | ⟨s, c, rfl⟩
  · exact absurd rfl h.nonempty
  · have hc := h.no_slash c (by simp)
    simpa [isSlash] using hc

theorem steps_join (p : Path) {name : List Char} (h : Plain name) :
    FileTree.steps (p.join (.ofChars name)) = FileTree.steps p ++ [name] := by
  unfold FileTree.steps
  rcases parts_join p h with ⟨h0, hj⟩ | ⟨above, -, hp, hj⟩
  · have hparts : p.parts = [[]] := by rw [parts, h0]; rfl
    simp [hj, hparts, h.nonempty]
  · rcases hp with hp | hp <;> simp [hj, hp, h.nonempty]

theorem components_join (p : Path) {name : List Char} (h : Plain name) :
    (p.join (.ofChars name)).components = p.components ++ [.name name] := by
  have hnone : component? [] = none := rfl
  unfold components
  rw [isAbsolute_join p h]
  rcases parts_join p h with ⟨h0, hj⟩ | ⟨above, hne, hp, hj⟩
  · have hparts : p.parts = [[]] := by rw [parts, h0]; rfl
    simp [hj, hparts, h.not_here, component?_plain h, hnone]
  · obtain ⟨first, others, rfl⟩ := List.exists_cons_of_ne_nil hne
    have hhead : (first :: others ++ [name]).head? = p.parts.head? := by
      rcases hp with hp | hp <;> simp [hp]
    have hrest : p.parts.filterMap component? = (first :: others).filterMap component? := by
      rcases hp with hp | hp
      · rw [hp]
      · rw [hp, List.filterMap_append, List.filterMap_cons_none hnone, List.filterMap_nil,
          List.append_nil]
    rw [hj, hhead, hrest, List.filterMap_append, ← List.append_assoc]
    simp [component?_plain h]

section
variable {names : List (List Char)} (folder : Path)

theorem steps_below (h : ∀ name ∈ names, Plain name) :
    FileTree.steps (folder.below names) = FileTree.steps folder ++ names := by
  induction names generalizing folder with
  | nil => exact (List.append_nil _).symm
  | cons name names ih =>
    show FileTree.steps ((folder.join (.ofChars name)).below names) = _
    rw [ih _ fun n hn => h n (List.mem_cons_of_mem name hn),
      steps_join folder (h name List.mem_cons_self), List.append_assoc]
    rfl

theorem components_below (h : ∀ name ∈ names, Plain name) :
    (folder.below names).components = folder.components ++ names.map .name := by
  induction names generalizing folder with
  | nil => exact (List.append_nil _).symm
  | cons name names ih =>
    show ((folder.join (.ofChars name)).below names).components = _
    rw [ih _ fun n hn => h n (List.mem_cons_of_mem name hn),
      components_join folder (h name List.mem_cons_self), List.append_assoc]
    rfl

theorem isAbsolute_below (h : ∀ name ∈ names, Plain name) :
    (folder.below names).isAbsolute = folder.isAbsolute := by
  induction names generalizing folder with
  | nil => rfl
  | cons name names ih =>
    show ((folder.join (.ofChars name)).below names).isAbsolute = _
    rw [ih _ fun n hn => h n (List.mem_cons_of_mem name hn),
      isAbsolute_join folder (h name List.mem_cons_self)]

theorem endsWithSlash_below (h : ∀ name ∈ names, Plain name) (hne : names ≠ []) :
    (folder.below names).endsWithSlash = false := by
  rcases List.eq_nil_or_concat names with rfl | ⟨above, name, rfl⟩
  · exact absurd rfl hne
  · rw [List.concat_eq_append, below_append, below_singleton]
    exact endsWithSlash_join _ (h name (by simp))

/-- Different names lead to different paths. -/
theorem same_below {others : List (List Char)} (h : ∀ name ∈ names, Plain name)
    (h' : ∀ name ∈ others, Plain name) :
    (folder.below names).same (folder.below others) = true ↔ names = others := by
  rw [same, beq_iff_eq, components_below folder h, components_below folder h',
    List.append_cancel_left_eq]
  constructor
  · intro he
    exact (List.map_inj_right fun _ _ => Component.name.inj).mp he
  · intro he
    rw [he]

end
/-! ## Extensions -/

theorem trimReversed_of_name {c : Char} (hs : c ≠ '/') (hd : c ≠ '.') (keep : Nat) (r : List Char) :
    trimReversed keep (c :: r) = c :: r := by
  unfold trimReversed
  split
  · rename_i h
    exact absurd (List.cons.inj h).1 hs
  · rename_i h
    exact absurd (List.cons.inj h).1 hd
  · rfl

theorem splitName_extension {stem ext : List Char} (hs : stem ≠ []) (he : '.' ∉ ext) :
    splitName (stem ++ '.' :: ext) = (stem, some ext) := by
  have hall : ∀ c ∈ ext.reverse, (c != '.') = true := by
    intro c hc
    rw [bne_iff_ne]
    rintro rfl
    exact he (List.mem_reverse.mp hc)
  have hending : ((stem ++ '.' :: ext).reverse.takeWhile (· != '.')).reverse = ext := by
    rw [List.reverse_append, List.reverse_cons, List.append_assoc,
      List.takeWhile_append_of_pos hall]
    simp
  have hbefore : (stem ++ '.' :: ext).take ((stem ++ '.' :: ext).length - ext.length - 1) =
      stem := by
    have hlength : (stem ++ '.' :: ext).length - ext.length - 1 = stem.length := by
      simp only [List.length_append, List.length_cons]
      omega
    rw [hlength, List.take_left]
  unfold splitName
  simp only [hending, hbefore]
  exact if_pos ⟨by simp, hs⟩

/-- A name that has an extension is given another one. -/
theorem withExtension_join (p : Path) {stem old new : List Char} (hs : stem ≠ [])
    (hold : old ≠ []) (hdot : '.' ∉ old) (hnew : new ≠ []) (h : Plain (stem ++ '.' :: old))
    (h' : Plain (stem ++ '.' :: new)) :
    (p.join (.ofChars (stem ++ '.' :: old))).withExtension new =
      p.join (.ofChars (stem ++ '.' :: new)) := by
  have hfile : (p.join (.ofChars (stem ++ '.' :: old))).fileName? =
      some (stem ++ '.' :: old) := by
    rw [fileName?, components_join p h, List.getLast?_concat]
  obtain ⟨init, c, rfl⟩ : ∃ init c, old = init ++ [c] :=
    ⟨_, _, (List.dropLast_concat_getLast hold).symm⟩
  have hc : c ≠ '/' := by
    rintro rfl
    exact absurd (h.no_slash '/' (by simp)) (by decide)
  have hc' : c ≠ '.' := by
    rintro rfl
    exact hdot (by simp)
  have htrim (keep : Nat) : trimReversed keep
      (p.chars ++ p.glue ++ (stem ++ '.' :: (init ++ [c]))).reverse =
        (p.chars ++ p.glue ++ (stem ++ '.' :: (init ++ [c]))).reverse := by
    simp only [List.reverse_append, List.reverse_cons, List.reverse_nil, List.nil_append,
      List.cons_append, List.append_assoc]
    exact trimReversed_of_name hc hc' _ _
  have hdrop : ((p.chars ++ p.glue ++ (stem ++ '.' :: (init ++ [c]))).reverse.drop
      (stem ++ '.' :: (init ++ [c])).length).reverse = p.chars ++ p.glue := by
    have happend : (p.chars ++ p.glue ++ (stem ++ '.' :: (init ++ [c]))).reverse =
        (stem ++ '.' :: (init ++ [c])).reverse ++ (p.chars ++ p.glue).reverse :=
      List.reverse_append
    rw [happend, ← List.length_reverse, List.drop_left, List.reverse_reverse]
  unfold withExtension
  rw [hfile]
  dsimp only
  rw [chars_join p h, htrim, hdrop, splitName_extension hs hdot, if_neg hnew, List.append_assoc,
    ← chars_join p h', ofChars_chars]

end Conformance.Path
