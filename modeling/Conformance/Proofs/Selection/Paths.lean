import Conformance.Proofs.Discovery.Found
import Conformance.Proofs.Selection.Firsts

/-!
# What selected paths plan

A case of a file is named after the path by which the file was found, and after its scenario. Two
paths give one name only if a colon that is part of the longer one is taken for the colons before a
scenario. Where that is not so, a plan holds the cases of each path once, however often the path was
selected; paths that are spelled differently count as different, whatever they lead to.
-/
namespace Conformance

namespace Discovery

variable {files : FileTree} {p q : Path} {part part' : List TestCase}

/-- One path goes on where the other ends, with a colon. -/
def Continues (p q : Path) : Prop :=
  p.chars ++ [':'] <+: q.chars

/-- What the cases of a path are called. -/
inductive Called (p : Path) (t : TestCase) : Prop
  | whole : t.input = none → t.name = p.text → Called p t
  | scenario (stem : String) : t.input.isSome → t.name = p.text ++ "::" ++ stem → Called p t

theorem Called.chars_whole {t : TestCase} (h : t.name = p.text) : t.name.toList = p.chars :=
  congrArg String.toList h

theorem Called.chars_scenario {t : TestCase} {stem : String}
    (h : t.name = p.text ++ "::" ++ stem) :
    t.name.toList = p.chars ++ ':' :: ':' :: stem.toList := by
  simp [h, Path.chars]

/-- Before the colons of a scenario stands one path, or another one that goes on with a colon. -/
theorem eq_or_continues {p q a b : List Char} (h : p ++ ':' :: a = q ++ ':' :: b) :
    p = q ∨ p ++ [':'] <+: q ∨ q ++ [':'] <+: p := by
  rcases List.append_eq_append_iff.mp h with ⟨r, rfl, hr⟩ | ⟨r, rfl, hr⟩
  · cases r with
    | nil => exact .inl (List.append_nil p).symm
    | cons c r =>
      obtain ⟨rfl, -⟩ := List.cons.inj hr
      exact .inr (.inl ⟨r, by simp⟩)
  · cases r with
    | nil => exact .inl (List.append_nil q)
    | cons c r =>
      obtain ⟨rfl, -⟩ := List.cons.inj hr
      exact .inr (.inr ⟨r, by simp⟩)

theorem path_eq (h : p.chars = q.chars) : p = q := by
  cases p
  cases q
  exact congrArg Path.mk (String.toList_inj.mp h)

/-- Cases of two paths are called alike only if a scenario of one of them is called as if the other
path were meant. -/
theorem Called.path_eq_or {t u : TestCase} (ht : Called p t) (hu : Called q u)
    (h : t.name = u.name) :
    p = q ∨ t.input.isSome ∧ Continues p q ∨ u.input.isSome ∧ Continues q p := by
  have hchars := congrArg String.toList h
  cases ht with
  | whole _ hp =>
    cases hu with
    | whole _ hq =>
      rw [chars_whole hp, chars_whole hq] at hchars
      exact .inl (path_eq hchars)
    | scenario stem hinput hq =>
      rw [chars_whole hp, chars_scenario hq] at hchars
      exact .inr (.inr ⟨hinput, ':' :: stem.toList, by simp [hchars]⟩)
  | scenario stem hinput hp =>
    cases hu with
    | whole _ hq =>
      rw [chars_scenario hp, chars_whole hq] at hchars
      exact .inr (.inl ⟨hinput, ':' :: stem.toList, by simp [← hchars]⟩)
    | scenario stem' hinput' hq =>
      rw [chars_scenario hp, chars_scenario hq] at hchars
      rcases eq_or_continues hchars with heq | hpq | hqp
      · exact .inl (path_eq heq)
      · exact .inr (.inl ⟨hinput, hpq⟩)
      · exact .inr (.inr ⟨hinput', hqp⟩)

namespace Yields

theorem unique (h : Yields files p part) (h' : Yields files p part') : part = part' :=
  Except.ok.inj ((loadFile_eq_ok.mpr h).symm.trans (loadFile_eq_ok.mpr h'))

/-- The cases of scenario lines are called after the input files. -/
theorem names_of_lines {name : String} {origin : Path} {header : List (List Char)}
    {body : List Char} {given : List (List String)} {cases : List TestCase}
    (h : List.Forall₂ (Annotated.ScenarioCase files name origin header body) given cases) :
    cases.map (·.name) =
      (given.filterMap List.head?).map fun file => name ++ "::" ++ Annotated.stemOf file := by
  induction h with
  | nil => rfl
  | cons hline _ ih =>
    obtain ⟨file, codes, input, rfl, -, hname, -⟩ := hline
    rw [List.map_cons, ih, hname]
    rfl

theorem called (h : Yields files p part) : ∀ t ∈ part, Called p t := by
  obtain ⟨content, header, separator, body, -, -, -, hdescribes⟩ := h
  cases hdescribes with
  | plain _ _ hname hinput _ =>
    intro t ht
    obtain rfl := List.mem_singleton.mp ht
    exact .whole hinput hname
  | scenarios _ hlines =>
    intro t ht
    obtain ⟨args, -, file, codes, input, -, -, hname, -, hinput, -⟩ :=
      exists_of_forall₂ hlines.flip ht
    exact .scenario _ (by simp [hinput]) hname

/-- The cases of one file have distinct names. -/
theorem distinct (h : Yields files p part) : (part.map (·.name)).Nodup := by
  obtain ⟨content, header, separator, body, -, -, haccepted, hdescribes⟩ := h
  cases hdescribes with
  | plain => exact List.nodup_singleton _
  | scenarios hne hlines =>
    have hstems := (haccepted.expands hne).distinct
    rw [names_of_lines hlines]
    have hinjective : Function.Injective fun stem => p.text ++ "::" ++ stem := by
      intro s s' heq
      simpa using heq
    simpa [Annotated.inputFiles, Function.comp_def] using hstems.map hinjective

end Yields

/-- Two cases of one name are one case of one file, or a scenario of one file is called as if the
other file were meant. -/
theorem merged (hp : Yields files p part) (hq : Yields files q part') {t u : TestCase}
    (ht : t ∈ part) (hu : u ∈ part') (h : t.name = u.name) :
    p = q ∧ t = u ∨ t.input.isSome ∧ Continues p q ∨ u.input.isSome ∧ Continues q p := by
  rcases (hp.called t ht).path_eq_or (hq.called u hu) h with rfl | hcontinues
  · obtain rfl := hp.unique hq
    exact .inl ⟨rfl, List.inj_on_of_nodup_map hp.distinct ht hu h⟩
  · exact .inr hcontinues

/-- No path of a file with scenarios goes on with a colon as another one of these paths. -/
def Apart (files : FileTree) (paths : Path → Prop) : Prop :=
  ∀ p q part, paths p → paths q → Yields files p part → (∃ t ∈ part, t.input.isSome) →
    ¬Continues p q

theorem Apart.path_eq {paths : Path → Prop} (h : Apart files paths) (hp : paths p) (hq : paths q)
    (hpart : Yields files p part) (hpart' : Yields files q part') {t u : TestCase} (ht : t ∈ part)
    (hu : u ∈ part') (hname : t.name = u.name) : p = q := by
  rcases merged hpart hpart' ht hu hname with ⟨rfl, -⟩ | ⟨hinput, hcontinues⟩ | ⟨hinput, hcontinues⟩
  · rfl
  · exact absurd hcontinues (h p q part hp hq hpart ⟨t, ht, hinput⟩)
  · exact absurd hcontinues (h q p part' hq hp hpart' ⟨u, hu, hinput⟩)

/-- These are the names of the cases that these paths yield. -/
def NamesOf (files : FileTree) (done : List Path) (seen : List String) : Prop :=
  ∀ n, n ∈ seen ↔ ∃ p ∈ done, ∃ part, Yields files p part ∧ n ∈ part.map (·.name)

theorem NamesOf.cons {done : List Path} {seen : List String} (h : NamesOf files done seen)
    (hpart : Yields files p part) :
    NamesOf files (p :: done) ((part.map (·.name)).reverse ++ seen) := by
  intro n
  rw [List.mem_append, List.mem_reverse, h]
  simp only [List.exists_mem_cons_iff]
  refine or_congr_left ⟨fun hn => ⟨part, hpart, hn⟩, ?_⟩
  rintro ⟨part', hpart', hn⟩
  rwa [hpart.unique hpart']

/-- The cases of a path that was not seen have names that were not seen. -/
theorem Apart.fresh {paths : Path → Prop} (h : Apart files paths) {done : List Path}
    (hdone : ∀ q ∈ done, paths q) {seen : List String} (hseen : NamesOf files done seen)
    (hp : paths p) (hpart : Yields files p part) (hnew : p ∉ done) :
    Fresh (part.map (·.name)) seen := by
  refine ⟨hpart.distinct, fun n hn hmem => ?_⟩
  obtain ⟨q, hq, part', hpart', hn'⟩ := (hseen n).mp hmem
  obtain ⟨t, ht, rfl⟩ := List.mem_map.mp hn
  obtain ⟨u, hu, hname⟩ := List.mem_map.mp hn'
  exact hnew (h.path_eq hp (hdone q hq) hpart hpart' ht hu hname.symm ▸ hq)

end Discovery

namespace Plan

open Discovery (Yields Apart NamesOf)

end Plan

namespace Selection

open Discovery

variable {files : FileTree} {paths : List Path} {cases : List TestCase}

/-- A path by which a file is found from one of the selected paths. -/
def Leads (files : FileTree) (paths : List Path) (p : Path) : Prop :=
  ∃ path ∈ paths, Found files path p

end Selection
end Conformance
