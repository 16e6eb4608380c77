import Conformance.Proofs.Files.Contents
import Conformance.Proofs.Path.Below

/-!
# Ways through a folder

A way along the names of a folder and names behind them is a way to the folder and one on from
there (`Way.append`, `Way.split`), and it comes to one folder only (`Way.unique`). Where no link
stands, plain names lead down: a `Descent` passes each of them in turn and ends at the location
that they spell.
-/
namespace Conformance.FileTree

open Conformance.Path (Plain)

/-- From each waypoint there is one stride at most. -/
theorem Stride.unique {look : Location → Option Node} {aim : Aim} {w u v : Waypoint}
    (h : Stride look aim w u) (h' : Stride look aim w v) : u = v := by
  cases h with
  | here hf =>
    cases h' with
    | here => rfl
    | down _ hp _ _ _ => exact absurd rfl hp.not_here
    | link _ hp _ _ _ => exact absurd rfl hp.not_here
  | parent hf =>
    cases h' with
    | parent => rfl
    | down _ hp _ _ _ => exact absurd rfl hp.not_parent
    | link _ hp _ _ _ => exact absurd rfl hp.not_parent
  | down hf hp ha hn hl =>
    cases h' with
    | here => exact absurd rfl hp.not_here
    | parent => exact absurd rfl hp.not_parent
    | down => rfl
    | link _ _ _ hn' _ => exact absurd (Option.some.inj (hn.symm.trans hn')) (hl _)
  | link hf hp ha hn hk =>
    cases h' with
    | here => exact absurd rfl hp.not_here
    | parent => exact absurd rfl hp.not_parent
    | down _ _ _ hn' hl => exact absurd (Option.some.inj (hn'.symm.trans hn)) (hl _)
    | link _ _ _ hn' _ =>
      obtain rfl := Node.link.inj (Option.some.inj (hn.symm.trans hn'))
      rfl

/-- All names of a path lead to one place. -/
theorem Way.unique {look : Location → Option Node} {aim : Aim} {w u v : Waypoint}
    (h : Way look aim w u) (h' : Way look aim w v) (hu : u.names = []) (hv : v.names = []) :
    u = v := by
  induction h with
  | done w =>
    cases h' with
    | done => rfl
    | stride hs _ => cases hs <;> cases hu
  | stride hs _ ih =>
    cases h' with
    | done => cases hs <;> cases hv
    | stride hs' hw' =>
      obtain rfl := hs.unique hs'
      exact ih hw' hu

/-- A stride of a path with more names behind it, whatever stands behind those and whatever they are
followed for. -/
theorem Stride.append {look : Location → Option Node} {w u : Waypoint}
    (h : Stride look .target w u) {rest : List (List Char)} (hr : rest ≠ []) (aim : Aim)
    (slash : Bool) :
    Stride look aim ⟨slash, w.links, w.loc, w.names ++ rest⟩
      ⟨slash, u.links, u.loc, u.names ++ rest⟩ := by
  have hadmits (names : List (List Char)) : Admits aim slash (names ++ rest) := by
    simp [Admits, hr]
  cases h with
  | here hf => exact .here hf
  | parent hf => exact .parent hf
  | down hf hp _ hn hl => exact .down hf hp (hadmits _) hn hl
  | @link _ links loc name names target hf hp _ hn _ =>
    have hslash : (slash || ((names ++ rest).isEmpty && target.endsWithSlash)) = slash := by
      simp [hr]
    have hs : Stride look aim ⟨slash, links + 1, loc, name :: (names ++ rest)⟩ _ :=
      .link hf hp (hadmits _) hn (by simp [hr])
    rwa [hslash, ← List.append_assoc] at hs

theorem Way.append {look : Location → Option Node} {w u : Waypoint}
    (h : Way look .target w u) {rest : List (List Char)} (hr : rest ≠ []) (aim : Aim)
    (slash : Bool) :
    Way look aim ⟨slash, w.links, w.loc, w.names ++ rest⟩
      ⟨slash, u.links, u.loc, u.names ++ rest⟩ := by
  induction h with
  | done w => exact .done _
  | stride hs _ ih => exact .stride (hs.append hr aim slash) ih

/-- A stride of a path that has more names behind it is one of the path without them. -/
theorem Stride.split {look : Location → Option Node} {w u : Waypoint} {name : List Char}
    {names rest : List (List Char)} (h : Stride look .target w u)
    (hn : w.names = name :: names ++ rest) (slash : Bool) :
    ∃ slash' names', u.names = names' ++ rest ∧
      Stride look .target ⟨slash, w.links, w.loc, name :: names⟩
        ⟨slash', u.links, u.loc, names'⟩ := by
  cases h with
  | here hf =>
    obtain ⟨rfl, rfl⟩ := List.cons.inj hn
    exact ⟨slash, names, rfl, .here hf⟩
  | parent hf =>
    obtain ⟨rfl, rfl⟩ := List.cons.inj hn
    exact ⟨slash, names, rfl, .parent hf⟩
  | down hf hp _ hnext hl =>
    obtain ⟨rfl, rfl⟩ := List.cons.inj hn
    exact ⟨slash, names, rfl, .down hf hp (admits_target _ _) hnext hl⟩
  | @link _ links loc _ _ target hf hp _ hnext _ =>
    obtain ⟨rfl, rfl⟩ := List.cons.inj hn
    exact ⟨_, steps target ++ names, (List.append_assoc _ _ _).symm,
      .link hf hp (admits_target _ _) hnext (by simp [Aim.keepsLink])⟩

/-- A way along names with more behind them has passed the first ones, or has some of them left. -/
theorem Way.split {look : Location → Option Node} {w u : Waypoint} {names rest : List (List Char)}
    (h : Way look .target w u) (hn : w.names = names ++ rest) (slash : Bool) :
    (∃ s s' links loc, Way look .target ⟨slash, w.links, w.loc, names⟩ ⟨s, links, loc, []⟩ ∧
      Way look .target ⟨s', links, loc, rest⟩ u) ∨
      ∃ left, left ≠ [] ∧ u.names = left ++ rest := by
  induction h generalizing names slash with
  | done w =>
    cases names with
    | nil =>
      obtain ⟨s, links, loc, ns⟩ := w
      obtain rfl : ns = rest := hn
      exact .inl ⟨slash, s, links, loc, .done _, .done _⟩
    | cons name names => exact .inr ⟨name :: names, nofun, hn⟩
  | @stride w v u hs hw ih =>
    cases names with
    | nil =>
      obtain ⟨s, links, loc, ns⟩ := w
      obtain rfl : ns = rest := hn
      exact .inl ⟨slash, s, links, loc, .done _, .stride hs hw⟩
    | cons name names =>
      obtain ⟨slash', names', hv, hs'⟩ := hs.split hn slash
      rcases ih hv slash' with ⟨s, s', links, loc, hfirst, hrest⟩ | hleft
      · exact .inl ⟨s, s', links, loc, .stride hs' hfirst, hrest⟩
      · exact .inr hleft

/-! ## Going down -/

/-- The location of names below another one. -/
def along (loc : Location) (names : List (List Char)) : Location :=
  loc ++ names.map String.ofList

theorem along_cons (loc : Location) (name : List Char) (names : List (List Char)) :
    along (under loc name) names = along loc (name :: names) := by
  simp [along, under]

theorem under_along (loc : Location) (names : List (List Char)) (name : List Char) :
    under (along loc names) name = along loc (names ++ [name]) := by
  simp [along, under]

theorem prefix_along (loc : Location) (names : List (List Char)) : loc <+: along loc names :=
  List.prefix_append _ _

theorem along_ne {names : List (List Char)} (h : names ≠ []) (loc : Location) :
    along loc names ≠ loc := by
  simp [along, h]

theorem along_inj {loc : Location} {names others : List (List Char)}
    (h : along loc names = along loc others) : names = others :=
  (List.map_inj_right fun _ _ => String.ofList_injective).mp (List.append_cancel_left h)

/-- Names that are passed from folder to folder, and nothing else. -/
inductive Descent (look : Location → Option Node) : Location → List (List Char) → Prop
  | done (loc : Location) : Descent look loc []
  | down {loc : Location} {name : List Char} {names : List (List Char)} {node : Node} :
      look loc = some .folder → Proper name → look (under loc name) = some node →
      (∀ target, node ≠ .link target) → Descent look (under loc name) names →
      Descent look loc (name :: names)

theorem Descent.way {look : Location → Option Node} {loc : Location} {names : List (List Char)}
    (h : Descent look loc names) (slash : Bool) (links : Nat) :
    Way look .target ⟨slash, links, loc, names⟩ ⟨slash, links, along loc names, []⟩ := by
  induction h with
  | done loc => rw [along, List.map_nil, List.append_nil]; exact .done _
  | down hf hp hn hl _ ih =>
    rw [← along_cons]
    exact .stride (.down hf hp (admits_target _ _) hn hl) ih

/-- A descent to a folder goes on to what has a name there. -/
theorem Descent.snoc {look : Location → Option Node} {loc : Location} {names : List (List Char)}
    (h : Descent look loc names) (hf : look (along loc names) = some .folder) {name : List Char}
    (hp : Proper name) {node : Node} (hn : look (along loc (names ++ [name])) = some node)
    (hl : ∀ target, node ≠ .link target) : Descent look loc (names ++ [name]) := by
  induction h with
  | done loc =>
    rw [along, List.map_nil, List.append_nil] at hf
    exact .down hf hp hn hl (.done _)
  | down hf' hp' hn' hl' _ ih =>
    rw [← along_cons] at hf
    rw [List.cons_append, ← along_cons] at hn
    exact .down hf' hp' hn' hl' (ih hf hn)

theorem Descent.opens {look look' : Location → Option Node} {loc : Location}
    {names : List (List Char)} (h : Descent look loc names) (ho : Opens look look') :
    Descent look' loc names := by
  induction h with
  | done loc => exact .done loc
  | down hf hp hn hl _ ih =>
    obtain ⟨node', hn', hl'⟩ := ho.other hn hl
    exact .down (ho.folder hf) hp hn' hl' ih

/-- A descent sees nothing but what lies below its start. -/
theorem Descent.congr {look look' : Location → Option Node} {top loc : Location}
    {names : List (List Char)} (h : Descent look loc names)
    (hl : ∀ l, top <+: l → look' l = look l) (ht : top <+: loc) : Descent look' loc names := by
  induction h with
  | done loc => exact .done loc
  | @down loc name names node hf hp hn hlink _ ih =>
    have hnext : top <+: under loc name := ht.trans (List.prefix_append _ _)
    exact .down (by rw [hl _ ht, hf]) hp (by rw [hl _ hnext, hn]) hlink (ih hnext)

/-- Where no link stands below a location, ways along plain names go down from it. -/
theorem Way.descent {look : Location → Option Node} {w u : Waypoint} (h : Way look .target w u)
    {top : Location} (hl : ∀ l, top <+: l → l ≠ top → ∀ target, look l ≠ some (.link target))
    (ht : top <+: w.loc) (hp : ∀ name ∈ w.names, Plain name) :
    ∃ passed, w.names = passed ++ u.names ∧ u.loc = along w.loc passed ∧
      Descent look w.loc passed := by
  induction h with
  | done w => exact ⟨[], rfl, (List.append_nil _).symm, .done _⟩
  | stride hs _ ih =>
    cases hs with
    | here => exact absurd rfl (hp _ List.mem_cons_self).not_here
    | parent => exact absurd rfl (hp _ List.mem_cons_self).not_parent
    | @down slash links loc name names node hf hname _ hn hlink =>
      obtain ⟨passed, hnames, hloc, hd⟩ := ih (ht.trans (List.prefix_append _ _))
        fun n hmem => hp n (List.mem_cons_of_mem _ hmem)
      refine ⟨name :: passed, ?_, ?_, .down hf hname hn hlink hd⟩
      · exact congrArg (name :: ·) hnames
      · rw [hloc, along_cons]
    | @link slash links loc name names target hf hname _ hn _ =>
      have hne : under loc name ≠ top := by
        intro he
        have hlength : top.length ≤ loc.length := ht.length_le
        rw [← he, under, List.length_append, List.length_singleton] at hlength
        omega
      exact absurd hn (hl _ (ht.trans (List.prefix_append _ _)) hne target)

end Conformance.FileTree
