import Conformance.Proofs.Files.Descent
import Conformance.Proofs.Text.Lines

/-!
# Spellings of a path

The components of a path are a root or a dot at its very start, and behind it what its parts ask
for. A relative path that is joined to another one adds the latter only (`components_join_relative`),
and the parent of a name in a folder has the components of the folder, however the folder is
spelled (`components_parent_join`). Any path that has a parent has one component more
(`components_parent?`).

Dots on the way can be left out, so it is the components of a path that decide where it leads. A
path whose components are those of a folder and then plain names leads to the location of these
names below the folder, if no link stands there (`loc_of_components`).
-/
namespace Conformance

namespace Path

/-- The component that stands at the very start and nowhere else. -/
def lead (p : Path) : List Component :=
  if p.isAbsolute then [.root] else if p.parts.head? = some ['.'] then [.here] else []

/-- The components behind the start. -/
def trail (p : Path) : List Component :=
  p.parts.filterMap component?

theorem components_eq (p : Path) : p.components = p.lead ++ p.trail := rfl

theorem leadLength_eq (p : Path) : p.leadLength = p.lead.length := by
  unfold leadLength lead
  split
  · rfl
  · split <;> rfl

theorem component?_eq_some {part : List Char} {c : Component} (h : component? part = some c) :
    part ≠ [] ∧ part ≠ ['.'] ∧
      (part = ['.', '.'] ∧ c = .parent ∨ part ≠ ['.', '.'] ∧ c = .name part) := by
  unfold component? at h
  split at h
  · cases h
  · rename_i hnone
    obtain ⟨hempty, hdot⟩ := not_or.mp hnone
    refine ⟨hempty, hdot, ?_⟩
    split at h
    · exact .inl ⟨‹_›, (Option.some.inj h).symm⟩
    · exact .inr ⟨‹_›, (Option.some.inj h).symm⟩

/-- Behind the start a path goes up or to a plain name. -/
theorem mem_trail {p : Path} {c : Component} (h : c ∈ p.trail) :
    c = .parent ∨ ∃ name, c = .name name ∧ Plain name := by
  obtain ⟨part, hpart, hc⟩ := List.mem_filterMap.mp h
  obtain ⟨hempty, hdot, ⟨-, rfl⟩ | ⟨hparent, rfl⟩⟩ := component?_eq_some hc
  · exact .inl rfl
  · exact .inr ⟨part, rfl, hempty, Text.forall_mem_splitOn hpart, hdot, hparent⟩

theorem mem_lead {p : Path} {c : Component} (h : c ∈ p.lead) : c = .root ∨ c = .here := by
  unfold lead at h
  split at h
  · exact .inl (List.mem_singleton.mp h)
  · split at h
    · exact .inr (List.mem_singleton.mp h)
    · cases h

theorem parent_mem_components {p : Path} :
    Component.parent ∈ p.components ↔ Component.parent ∈ p.trail := by
  have hlead : Component.parent ∉ p.lead := fun h => by
    rcases mem_lead h with h | h <;> cases h
  rw [components_eq, List.mem_append, or_iff_right hlead]

theorem plain_of_mem_components {p : Path} {name : List Char} (h : .name name ∈ p.components) :
    Plain name := by
  have hlead : Component.name name ∉ p.lead := fun h => by
    rcases mem_lead h with h | h <;> cases h
  rw [components_eq, List.mem_append, or_iff_right hlead] at h
  rcases mem_trail h with h | ⟨_, h, hname⟩
  · cases h
  · obtain rfl := Component.name.inj h
    exact hname

theorem exists_names_of_forall {cs : List Component}
    (h : ∀ c ∈ cs, ∃ name, c = .name name ∧ Plain name) :
    ∃ names : List (List Char), cs = names.map .name ∧ ∀ name ∈ names, Plain name := by
  induction cs with
  | nil => exact ⟨[], rfl, nofun⟩
  | cons c cs ih =>
    obtain ⟨⟨name, rfl, hname⟩, hrest⟩ := List.forall_mem_cons.mp h
    obtain ⟨names, rfl, hnames⟩ := ih hrest
    exact ⟨name :: names, rfl, List.forall_mem_cons.mpr ⟨hname, hnames⟩⟩

/-- A path that never goes up is made of plain names behind its start. -/
theorem exists_names {p : Path} (h : Component.parent ∉ p.components) :
    ∃ names : List (List Char), p.trail = names.map .name ∧ ∀ name ∈ names, Plain name := by
  rw [parent_mem_components] at h
  refine exists_names_of_forall fun c hc => (mem_trail hc).resolve_left ?_
  rintro rfl
  exact h hc

theorem isAbsolute_iff_root {p : Path} :
    p.isAbsolute = true ↔ p.components.head? = some .root := by
  rw [components_eq, lead]
  cases p.isAbsolute with
  | true => simp
  | false =>
    refine ⟨nofun, fun h => ?_⟩
    have hmem := List.mem_of_head? h
    rcases List.mem_append.mp hmem with hlead | htrail
    · rw [if_neg Bool.false_ne_true] at hlead
      revert hlead
      split <;> simp
    · rcases mem_trail htrail with h | ⟨_, h, -⟩ <;> cases h

theorem components_of_absolute {p : Path} (h : p.isAbsolute = true) :
    p.components = .root :: p.trail := by
  rw [components_eq, lead, if_pos h]
  rfl

theorem components_ne_nil {p : Path} (h : p.chars ≠ []) : p.components ≠ [] := by
  obtain ⟨c, cs, hchars⟩ := List.exists_cons_of_ne_nil h
  by_cases hc : c = '/'
  · rw [components_of_absolute (by rw [isAbsolute, hchars, hc]; rfl)]
    exact List.cons_ne_nil _ _
  · -- The first part has a character, so it is a dot at the start or asks for something.
    obtain ⟨part, parts, hparts⟩ : ∃ part parts, p.parts = (c :: part) :: parts := by
      have hslash : isSlash c = false := beq_false_of_ne hc
      rw [Path.parts, hchars, Text.splitOn, hslash]
      cases Text.splitOn isSlash cs with
      | nil => exact ⟨[], [], rfl⟩
      | cons part parts => exact ⟨part, parts, rfl⟩
    rw [components_eq, lead, trail, hparts]
    by_cases hdot : c :: part = ['.']
    · split <;> simp [hdot]
    · cases hcomponent : component? (c :: part) with
      | none => simp [component?, hdot] at hcomponent; split at hcomponent <;> cases hcomponent
      | some component => simp [hcomponent]

theorem chars_ne_nil {p : Path} (h : p.components ≠ []) : p.chars ≠ [] := by
  intro hchars
  refine h ?_
  rw [components_eq, lead, trail, isAbsolute, parts, hchars]
  rfl

/-! ## Texts with a slash -/

variable {s t : List Char}

theorem parts_slash (s t : List Char) :
    (ofChars (s ++ '/' :: t)).parts = (ofChars s).parts ++ (ofChars t).parts := by
  simp only [parts, chars_ofChars]
  exact Text.splitOn_append_cons rfl s t

theorem trail_slash (s t : List Char) :
    (ofChars (s ++ '/' :: t)).trail = (ofChars s).trail ++ (ofChars t).trail := by
  rw [trail, parts_slash, List.filterMap_append]
  rfl

theorem trail_slash_nil (s : List Char) : (ofChars (s ++ ['/'])).trail = (ofChars s).trail := by
  rw [trail_slash]
  exact List.append_nil _

theorem head?_parts_slash (s t : List Char) :
    (ofChars (s ++ '/' :: t)).parts.head? = (ofChars s).parts.head? := by
  obtain ⟨first, others, hparts⟩ :=
    List.exists_cons_of_ne_nil (Text.splitOn_ne_nil isSlash (ofChars s).chars)
  rw [parts_slash, parts, hparts]
  rfl

/-- What stands behind a slash is not the start. -/
theorem lead_slash (s t : List Char) :
    (ofChars (s ++ '/' :: t)).lead = (ofChars (s ++ ['/'])).lead := by
  have habsolute : (ofChars (s ++ '/' :: t)).isAbsolute = (ofChars (s ++ ['/'])).isAbsolute := by
    simp only [isAbsolute, chars_ofChars]
    cases s <;> rfl
  rw [lead, lead, habsolute, head?_parts_slash, head?_parts_slash]

theorem lead_slash_nil (h : s ≠ []) : (ofChars (s ++ ['/'])).lead = (ofChars s).lead := by
  have habsolute : (ofChars (s ++ ['/'])).isAbsolute = (ofChars s).isAbsolute := by
    simp only [isAbsolute, chars_ofChars]
    cases s with
    | nil => exact absurd rfl h
    | cons c s => rfl
  rw [lead, lead, habsolute, head?_parts_slash]

/-- Slashes and dots that are trimmed at the end of a path are no components. -/
theorem components_trimReversed (keep : Nat) (r : List Char)
    (h : keep = (ofChars r.reverse).leadLength) :
    (ofChars (trimReversed keep r).reverse).components = (ofChars r.reverse).components := by
  fun_induction trimReversed keep r with
  | case1 => rfl
  | case2 r hkeep ih =>
    rw [List.reverse_cons, leadLength_eq] at h
    have hr : r.reverse ≠ [] := by
      intro hnil
      rw [hnil] at h
      have hlength : r.length = 0 := by simpa using hnil
      exact hkeep (by rw [hlength, h]; decide)
    rw [ih (by rw [h, lead_slash_nil hr, leadLength_eq]), List.reverse_cons, components_eq,
      components_eq (ofChars (_ ++ _)), lead_slash_nil hr, trail_slash_nil]
  | case3 => rfl
  | case4 r hkeep ih =>
    have hchars : ('.' :: '/' :: r).reverse = r.reverse ++ '/' :: ['.'] := by simp
    have hdot : (ofChars ['.']).trail = [] := rfl
    rw [hchars, leadLength_eq, lead_slash] at h
    rw [ih (by rw [h, List.reverse_cons, leadLength_eq]), hchars, List.reverse_cons, components_eq,
      components_eq (ofChars (_ ++ '/' :: ['.'])), lead_slash _ ['.'], trail_slash_nil,
      trail_slash _ ['.'], hdot, List.append_nil]
  | case5 => rfl

/-! ## Joined paths -/

/-- A path that is not empty has a slash behind it when something is joined to it, and no other
components by that. -/
theorem exists_glue {p : Path} (h : p.chars ≠ []) :
    ∃ s, p.chars ++ p.glue = s ++ ['/'] ∧ (ofChars (s ++ ['/'])).lead = p.lead ∧
      (ofChars s).trail = p.trail := by
  cases hslash : p.endsWithSlash with
  | true =>
    obtain ⟨s, hs⟩ : ∃ s, p.chars = s ++ ['/'] := by
      rw [endsWithSlash, beq_iff_eq, List.getLast?_eq_some_iff] at hslash
      exact hslash
    refine ⟨s, by rw [glue, if_pos (.inr hslash), List.append_nil, hs], ?_, ?_⟩
    · rw [← hs, ofChars_chars]
    · rw [← trail_slash_nil, ← hs, ofChars_chars]
  | false =>
    refine ⟨p.chars, by rw [glue, if_neg (by simp [h, hslash])], ?_, ?_⟩
    · rw [lead_slash_nil h, ofChars_chars]
    · rw [ofChars_chars]

theorem chars_join_relative (p : Path) {q : Path} (h : q.isAbsolute = false) :
    (p.join q).chars = p.chars ++ p.glue ++ q.chars := by
  unfold join glue
  rw [h]
  by_cases hp : p.chars = [] ∨ p.endsWithSlash = true
  · simp [hp]
  · simp [hp]

/-- A relative path adds what stands behind its start. -/
theorem components_join_relative {p q : Path} (hp : p.chars ≠ []) (hq : q.isAbsolute = false) :
    (p.join q).components = p.components ++ q.trail := by
  obtain ⟨s, hs, hlead, htrail⟩ := exists_glue hp
  have hjoin : p.join q = ofChars (s ++ '/' :: q.chars) := by
    rw [← ofChars_chars (p.join q), chars_join_relative p hq, hs, List.append_assoc]
    rfl
  rw [hjoin, components_eq, lead_slash, hlead, trail_slash, htrail, ofChars_chars, components_eq,
    List.append_assoc]

theorem Plain.trimReversed {name : List Char} (h : Plain name) (keep : Nat) (r : List Char) :
    Path.trimReversed keep (name.reverse ++ r) = name.reverse ++ r := by
  rcases List.eq_nil_or_concat name with rfl | ⟨init, c, rfl⟩
  · exact absurd rfl h.nonempty
  rw [List.concat_eq_append, List.reverse_append, List.reverse_singleton, List.singleton_append,
    List.cons_append]
  have hc : c ≠ '/' := by
    rintro rfl
    exact absurd (h.no_slash '/' (by simp)) (by decide)
  rcases List.eq_nil_or_concat init with rfl | ⟨init, d, rfl⟩
  · refine trimReversed_of_name hc ?_ _ _
    rintro rfl
    exact h.not_here rfl
  · have hd : d ≠ '/' := by
      rintro rfl
      exact absurd (h.no_slash '/' (by simp)) (by decide)
    rw [List.concat_eq_append, List.reverse_append, List.reverse_singleton, List.singleton_append,
      List.cons_append]
    unfold Path.trimReversed
    split
    · rename_i hr
      exact absurd (List.cons.inj hr).1 hc
    · rename_i hr
      exact absurd (List.cons.inj (List.cons.inj hr).2).1 hd
    · rfl

theorem leadLength_le_one (p : Path) : p.leadLength ≤ 1 := by
  unfold leadLength
  split
  · exact Nat.le_refl 1
  · split
    · exact Nat.le_refl 1
    · exact Nat.zero_le 1

/-- The parent of a name in a folder is spelled as the folder, less what may be trimmed. -/
theorem parent?_join {p : Path} {name s : List Char} (h : Plain name)
    (hs : p.chars ++ p.glue = s ++ ['/']) :
    (p.join (.ofChars name)).parent? = some
      (ofChars (trimReversed (ofChars (s ++ ['/'])).leadLength ('/' :: s.reverse)).reverse) := by
  have hchars : (p.join (.ofChars name)).chars = s ++ '/' :: name := by
    rw [chars_join p h, hs, List.append_assoc]
    rfl
  have hkeep : (p.join (.ofChars name)).leadLength = (ofChars (s ++ ['/'])).leadLength := by
    rw [← ofChars_chars (p.join _), hchars, leadLength_eq, lead_slash, leadLength_eq]
  have hshort := leadLength_le_one (ofChars (s ++ ['/']))
  have hreverse : (s ++ '/' :: name).reverse = name.reverse ++ '/' :: s.reverse := by simp
  have hbefore : (name.reverse ++ '/' :: s.reverse).takeWhile (! isSlash ·) = name.reverse := by
    rw [List.takeWhile_append_of_pos fun c hc => by
      rw [h.no_slash c (List.mem_reverse.mp hc)]; rfl]
    exact List.append_nil _
  have hlength : 0 < name.length := List.length_pos_iff.mpr h.nonempty
  unfold parent?
  dsimp only
  rw [hkeep, hchars, hreverse, h.trimReversed, if_neg (by simp), if_neg, hbefore, List.drop_left]
  simp only [List.length_append, List.length_reverse, List.length_cons]
  omega

/-- The parent of a name in a folder is the folder. -/
theorem components_parent_join {p : Path} {name : List Char} (hp : p.chars ≠ [])
    (h : Plain name) : (p.join (.ofChars name)).parent.components = p.components := by
  obtain ⟨s, hs, hlead, htrail⟩ := exists_glue hp
  have hrest : ('/' :: s.reverse).reverse = s ++ ['/'] := by simp
  rw [parent, parent?_join h hs, Option.getD_some, components_trimReversed _ _ (by rw [hrest]),
    hrest, components_eq, hlead, trail_slash_nil, htrail, components_eq]

/-- A name in a folder has a parent, also if the folder is the empty path. -/
theorem exists_parent?_join (p : Path) {name : List Char} (h : Plain name) :
    ∃ q, (p.join (.ofChars name)).parent? = some q ∧ q.components = p.components := by
  by_cases hp : p.chars = []
  · have hchars : (p.join (.ofChars name)).chars = name := by
      rw [chars_join p h, glue, if_pos (.inl hp), hp, List.append_nil, List.nil_append]
    have hkeep : (p.join (.ofChars name)).leadLength = 0 := by
      have habsolute : (p.join (.ofChars name)).isAbsolute = false := by
        rw [isAbsolute_join p h, isAbsolute, hp]
        rfl
      have hparts : (p.join (.ofChars name)).parts = [name] := by
        rw [parts, hchars, Text.splitOn_of_none h.no_slash]
      rw [leadLength, habsolute, hparts]
      simp [h.not_here]
    have htrim := h.trimReversed 0 []
    have hbefore : name.reverse.takeWhile (! isSlash ·) = name.reverse := by
      have hall : ∀ c ∈ name.reverse, (! isSlash c) = true := by
        intro c hc
        rw [h.no_slash c (List.mem_reverse.mp hc), Bool.not_false]
      rw [← List.append_nil name.reverse, List.takeWhile_append_of_pos hall, List.takeWhile_nil]
    rw [List.append_nil] at htrim
    refine ⟨ofChars [], ?_, ?_⟩
    · unfold parent?
      dsimp only
      rw [hkeep, hchars, htrim, if_neg (by simp [h.nonempty]), if_neg (by simp [h.nonempty]),
        hbefore, List.drop_length]
      rfl
    · rw [← ofChars_chars p, hp]
  · obtain ⟨s, hs, -, -⟩ := exists_glue hp
    have hcomponents := components_parent_join hp h
    rw [parent, parent?_join h hs] at hcomponents
    exact ⟨_, parent?_join h hs, hcomponents⟩

/-- Nothing is to be trimmed at the end of a plain name, which is the parent of all names in it. -/
theorem parent?_join_join (p : Path) {above name : List Char} (ha : Plain above) (h : Plain name) :
    ((p.join (.ofChars above)).join (.ofChars name)).parent? = some (p.join (.ofChars above)) := by
  have hchars := chars_join p ha
  have hslash := endsWithSlash_join p ha
  have hne : (p.join (.ofChars above)).chars ≠ [] := by
    rw [hchars]
    exact List.append_ne_nil_of_right_ne_nil _ ha.nonempty
  have hglue : (p.join (.ofChars above)).glue = ['/'] := by
    rw [glue, if_neg (by simp [hne, hslash])]
  have hlong : ¬(p.join (.ofChars above)).chars.reverse.length <
      (ofChars ((p.join (.ofChars above)).chars ++ ['/'])).leadLength := by
    have hpos := List.length_pos_iff.mpr hne
    have hshort := leadLength_le_one (ofChars ((p.join (.ofChars above)).chars ++ ['/']))
    rw [List.length_reverse]
    omega
  rw [parent?_join h (by rw [hglue]), Path.trimReversed, if_neg hlong, hchars,
    List.reverse_append, ha.trimReversed, ← List.reverse_append, List.reverse_reverse, ← hchars,
    ofChars_chars]

theorem trimReversed_suffix (keep : Nat) (r : List Char) : trimReversed keep r <:+ r := by
  fun_induction trimReversed keep r with
  | case1 => exact List.suffix_rfl
  | case2 r _ ih => exact ih.trans (List.suffix_cons _ r)
  | case3 => exact List.suffix_rfl
  | case4 r _ ih => exact ih.trans (List.suffix_cons _ _)
  | case5 => exact List.suffix_rfl

/-- The parent of a path is a beginning of it. -/
theorem chars_parent? {p q : Path} (h : p.parent? = some q) : q.chars <+: p.chars := by
  rw [← List.reverse_suffix]
  have hwhole := trimReversed_suffix p.leadLength p.chars.reverse
  unfold parent? at h
  dsimp only at h
  split_ifs at h
  · obtain rfl := Option.some.inj h
    exact List.nil_suffix
  · obtain rfl := Option.some.inj h
    rw [chars_ofChars, List.reverse_reverse]
    exact (trimReversed_suffix _ _).trans ((List.drop_suffix _ _).trans hwhole)

/-- The start of a path is told by its components. -/
theorem lead_of_components {p q : Path} (h : p.components = q.components) : p.lead = q.lead := by
  have hlead (p : Path) :
      p.components.filter (fun c => decide (c = .root ∨ c = .here)) = p.lead := by
    have hstart : p.lead.filter (fun c => decide (c = .root ∨ c = .here)) = p.lead :=
      List.filter_eq_self.mpr fun c hc => decide_eq_true (mem_lead hc)
    have hbehind : p.trail.filter (fun c => decide (c = .root ∨ c = .here)) = [] := by
      refine List.filter_eq_nil_iff.mpr fun c hc => ?_
      rcases mem_trail hc with rfl | ⟨_, rfl, -⟩ <;> simp
    rw [components_eq, List.filter_append, hstart, hbehind, List.append_nil]
  rw [← hlead p, ← hlead q, h]

/-- What is left of a reversed text when its end is trimmed ends with a part that asks for something,
or it is all beginning. -/
theorem trimReversed_head {keep : Nat} (hkeep : keep ≤ 1) (r : List Char)
    (h : keep < (trimReversed keep r).length) :
    (∀ s, trimReversed keep r ≠ '/' :: s) ∧ ∀ s, trimReversed keep r ≠ '.' :: '/' :: s := by
  fun_induction trimReversed keep r with
  | case1 r hshort => 
    simp only [List.length_cons] at h
    omega
  | case2 r _ ih => exact ih h
  | case3 r hshort => omega
  | case4 r _ ih => exact ih h
  | case5 r hslash hdot => exact ⟨fun s hs => hslash s hs, fun s hs => hdot s hs⟩

theorem component?_part {part : List Char} (hempty : part ≠ []) (hdot : part ≠ ['.']) :
    ∃ c, component? part = some c ∧ c ≠ .root := by
  unfold component?
  rw [if_neg (by simp [hempty, hdot])]
  split
  · exact ⟨_, rfl, nofun⟩
  · exact ⟨_, rfl, nofun⟩

theorem lead_eq_here {p : Path} (h : p.isAbsolute = false) (hlength : 0 < p.leadLength) :
    p.lead = [.here] := by
  rw [leadLength_eq, lead, h] at hlength
  rw [lead, h]
  by_cases hdot : p.parts.head? = some ['.']
  · rw [if_neg Bool.false_ne_true, if_pos hdot]
  · rw [if_neg Bool.false_ne_true, if_neg hdot] at hlength
    cases hlength

/-- The last part of a reversed text, and what stands before it. -/
theorem last_part (whole : List Char) :
    ∃ name rest, whole = name ++ rest ∧ (∀ c ∈ name, isSlash c = false) ∧
      (rest = [] ∨ ∃ r, rest = '/' :: r) ∧
      whole.drop (whole.takeWhile (! isSlash ·)).length = rest := by
  induction whole with
  | nil => exact ⟨[], [], rfl, nofun, .inl rfl, rfl⟩
  | cons c cs ih =>
    by_cases hc : isSlash c = true
    · obtain rfl : c = '/' := beq_iff_eq.mp hc
      exact ⟨[], '/' :: cs, rfl, nofun, .inr ⟨cs, rfl⟩, by simp [isSlash]⟩
    · obtain ⟨name, rest, rfl, hname, hrest, hdrop⟩ := ih
      refine ⟨c :: name, rest, rfl, List.forall_mem_cons.mpr ⟨Bool.of_not_eq_true hc, hname⟩, hrest, ?_⟩
      rw [List.takeWhile_cons_of_pos (by simpa using hc), List.length_cons, List.drop_succ_cons, hdrop]

/-- A path has one component more than its parent. -/
theorem components_parent? {p q : Path} (h : p.parent? = some q) :
    ∃ c, c ≠ .root ∧ p.components = q.components ++ [c] := by
  have hkeep := leadLength_le_one p
  have hcomponents : (ofChars (trimReversed p.leadLength p.chars.reverse).reverse).components =
      p.components := by
    rw [components_trimReversed _ _ (by rw [List.reverse_reverse, ofChars_chars]),
      List.reverse_reverse, ofChars_chars]
  have hlead := lead_of_components hcomponents
  have hhead := trimReversed_head hkeep p.chars.reverse
  unfold parent? at h
  dsimp only at h
  generalize trimReversed p.leadLength p.chars.reverse = whole at h hcomponents hlead hhead
  rw [← hcomponents]
  split_ifs at h with hnil hshort habsolute
  · -- Nothing is left but a dot at the start.
    obtain rfl := Option.some.inj h
    have hpositive := List.length_pos_iff.mpr hnil
    rw [lead_eq_here (Bool.eq_false_iff.mpr habsolute) (by omega)] at hlead
    obtain ⟨x, rfl⟩ := List.length_eq_one_iff.mp (by omega : whole.length = 1)
    by_cases hx : x = '.'
    · subst hx
      exact ⟨.here, nofun, rfl⟩
    · by_cases hslash : x = '/'
      · subst hslash
        cases hlead
      · have hsplit : (ofChars [x]).parts = [[x]] := by
          rw [parts, chars_ofChars, Text.splitOn_of_none (by simp [isSlash, hslash])]
        simp [lead, isAbsolute, hsplit, hx, hslash] at hlead
  · -- The last part asks for something, and the parent is what stands before it.
    obtain ⟨hslash, hdot⟩ := hhead (Nat.lt_of_not_le hshort)
    obtain ⟨name, rest, hwhole, hname, hrest, hdrop⟩ := last_part whole
    rw [hdrop] at h
    obtain rfl := Option.some.inj h
    have hsplit : (ofChars name.reverse).parts = [name.reverse] := by
      rw [parts, chars_ofChars, Text.splitOn_of_none fun c hc => hname c (List.mem_reverse.mp hc)]
    rcases hrest with rfl | ⟨r, rfl⟩
    · rw [List.append_nil] at hwhole
      subst hwhole
      have habsolute : (ofChars whole.reverse).isAbsolute = false := by
        refine Bool.eq_false_iff.mpr fun hs => ?_
        rw [isAbsolute, chars_ofChars, beq_iff_eq] at hs
        have hmem := hname '/' (List.mem_reverse.mp (List.mem_of_head? hs))
        exact absurd hmem (by decide)
      have hdots : whole.reverse ≠ ['.'] := by
        intro hd
        have hone := congrArg List.length hlead
        rw [hd, ← leadLength_eq p] at hone
        have hlength : whole.length = 1 := by rw [← List.length_reverse, hd]; rfl
        exact hshort (Nat.le_of_eq (hlength.trans hone))
      obtain ⟨c, hc, hroot⟩ := component?_part (by simpa using hnil) hdots
      refine ⟨c, hroot, ?_⟩
      have hq : trimReversed p.leadLength [] = [] := by simp [trimReversed]
      rw [hq, components_eq, lead, habsolute, trail, hsplit]
      simp [hdots, hc]
      rfl
    · subst hwhole
      have hempty : name.reverse ≠ [] := by
        intro he
        rw [List.reverse_eq_nil_iff.mp he] at hslash
        exact hslash r rfl
      have hdots : name.reverse ≠ ['.'] := by
        intro he
        rw [List.reverse_eq_iff.mp he] at hdot
        exact hdot r rfl
      obtain ⟨c, hc, hroot⟩ := component?_part hempty hdots
      have hreverse : (name ++ '/' :: r).reverse = r.reverse ++ '/' :: name.reverse := by simp
      have htrail : (ofChars name.reverse).trail = [c] := by
        rw [trail, hsplit, List.filterMap_cons_some hc, List.filterMap_nil]
      have hbefore : ('/' :: r).reverse = r.reverse ++ ['/'] := List.reverse_cons
      rw [hreverse, lead_slash] at hlead
      refine ⟨c, hroot, ?_⟩
      rw [components_trimReversed _ _ (by rw [hbefore, leadLength_eq, leadLength_eq, hlead]),
        hreverse, hbefore, components_eq, components_eq, lead_slash, trail_slash, trail_slash_nil,
        htrail, List.append_assoc]

theorem chars_below_ne_nil {folder : Path} {names : List (List Char)} (hf : folder.chars ≠ [])
    (h : ∀ name ∈ names, Plain name) : (folder.below names).chars ≠ [] := by
  refine chars_ne_nil ?_
  rw [components_below folder h]
  exact List.append_ne_nil_of_left_ne_nil (components_ne_nil hf) _

/-! ## Where components lead -/

/-- The name that a component goes by; a root or a dot is no step of the way. -/
def Component.move? : Component → Option (List Char)
  | .root | .here => none
  | .parent => some ['.', '.']
  | .name text => some text

/-- The names that a path is followed by, without dots. -/
def moves (p : Path) : List (List Char) :=
  p.components.filterMap Component.move?

theorem moves_of_components {p q : Path} {names : List (List Char)}
    (h : p.components = q.components ++ names.map .name) : p.moves = q.moves ++ names := by
  have hnames : (names.map Component.name).filterMap Component.move? = names := by
    rw [List.filterMap_map]
    exact List.filterMap_some
  rw [moves, h, List.filterMap_append, hnames]
  rfl

theorem filter_steps (p : Path) : (FileTree.steps p).filter (· != ['.']) = p.moves := by
  have hlead : p.lead.filterMap Component.move? = [] := by
    rw [List.filterMap_eq_nil_iff]
    intro c hc
    rcases mem_lead hc with rfl | rfl <;> rfl
  have hmove : ∀ part, (component? part).bind Component.move? =
      if part != [] && part != ['.'] then some part else none := by
    intro part
    unfold component?
    by_cases hempty : part = []
    · simp [hempty]
    by_cases hdot : part = ['.']
    · simp [hdot]
    by_cases hparent : part = ['.', '.']
    · simp [hparent, Component.move?]
    · simp [hempty, hdot, hparent, Component.move?]
  rw [moves, components_eq, List.filterMap_append, hlead, List.nil_append, trail,
    List.filterMap_filterMap, FileTree.steps, List.filter_filter]
  simp only [hmove]
  induction p.parts with
  | nil => rfl
  | cons part parts ih =>
    rw [List.filterMap_cons, List.filter_cons, ih, Bool.and_comm]
    cases part != [] && part != ['.'] <;> rfl

end Path

namespace FileTree

open Path (Plain)

/-- Names from which some dots were taken away. -/
inductive Undotted : List (List Char) → List (List Char) → Prop
  | nil : Undotted [] []
  | skip {names others : List (List Char)} : Undotted names others →
      Undotted (['.'] :: names) others
  | keep (name : List Char) {names others : List (List Char)} : Undotted names others →
      Undotted (name :: names) (name :: others)

theorem undotted_filter (names : List (List Char)) :
    Undotted names (names.filter (· != ['.'])) := by
  induction names with
  | nil => exact .nil
  | cons name names ih =>
    by_cases hdot : name = ['.']
    · subst hdot
      exact .skip ih
    · rw [List.filter_cons_of_pos (by simpa using hdot)]
      exact .keep name ih

theorem Undotted.append {names others : List (List Char)} (h : Undotted names others)
    (before : List (List Char)) : Undotted (before ++ names) (before ++ others) := by
  induction before with
  | nil => exact h
  | cons name before ih => exact .keep name ih

/-- A way to the end leads to the same place without the dots. -/
theorem Way.undotted {look : Location → Option Node} {w u : Waypoint} (h : Way look .target w u)
    (hu : u.names = []) {names : List (List Char)} (hn : Undotted w.names names) (slash : Bool) :
    ∃ s, Way look .target ⟨slash, w.links, w.loc, names⟩ ⟨s, u.links, u.loc, []⟩ := by
  induction h generalizing names slash with
  | done w =>
    rw [hu] at hn
    cases hn
    exact ⟨slash, .done _⟩
  | stride hs _ ih =>
    cases hs with
    | here hf =>
      cases hn with
      | skip hn => exact ih hu hn slash
      | keep _ hn =>
        obtain ⟨s, hw⟩ := ih hu hn slash
        exact ⟨s, .stride (.here hf) hw⟩
    | parent hf =>
      cases hn with
      | keep _ hn =>
        obtain ⟨s, hw⟩ := ih hu hn slash
        exact ⟨s, .stride (.parent hf) hw⟩
    | down hf hp _ hnode hl =>
      cases hn with
      | skip => exact absurd rfl hp.not_here
      | keep _ hn =>
        obtain ⟨s, hw⟩ := ih hu hn slash
        exact ⟨s, .stride (.down hf hp (admits_target _ _) hnode hl) hw⟩
    | @link _ _ _ _ _ target hf hp _ hnode _ =>
      cases hn with
      | skip => exact absurd rfl hp.not_here
      | keep _ hn =>
        obtain ⟨s, hw⟩ := ih hu (hn.append (steps target)) _
        exact ⟨s, .stride (.link hf hp (admits_target _ _) hnode (by simp [Aim.keepsLink])) hw⟩

theorem Stride.folder {look : Location → Option Node} {aim : Aim} {w u : Waypoint}
    (h : Stride look aim w u) : look w.loc = some .folder := by
  cases h with
  | here hf | parent hf | down hf | link hf => exact hf

/-- Dots are passed in a folder until a name comes that was kept, or none is left. -/
theorem Undotted.passed {look : Location → Option Node} {loc : Location}
    {names others : List (List Char)} (h : Undotted names others) (hf : look loc = some .folder)
    (slash : Bool) (links : Nat) :
    ∃ left, Way look .target ⟨slash, links, loc, names⟩ ⟨slash, links, loc, left⟩ ∧
      (others = [] ∧ left = [] ∨ ∃ name ns ns', others = name :: ns ∧ left = name :: ns' ∧
        Undotted ns' ns) := by
  induction h with
  | nil => exact ⟨[], .done _, .inl ⟨rfl, rfl⟩⟩
  | skip _ ih =>
    obtain ⟨left, hw, hleft⟩ := ih
    exact ⟨left, .stride (.here hf) hw, hleft⟩
  | keep name hn _ => exact ⟨_, .done _, .inr ⟨name, _, _, rfl, rfl, hn⟩⟩

/-- A way to a folder leads to it with dots between its names, too. -/
theorem Way.redotted {look : Location → Option Node} {w u : Waypoint} (h : Way look .target w u)
    (hu : u.names = []) (hf : look u.loc = some .folder) {names : List (List Char)}
    (hn : Undotted names w.names) (slash : Bool) :
    ∃ s, Way look .target ⟨slash, w.links, w.loc, names⟩ ⟨s, u.links, u.loc, []⟩ := by
  induction h generalizing names slash with
  | done w =>
    obtain ⟨left, hw, ⟨-, rfl⟩ | ⟨_, _, _, hne, -⟩⟩ := hn.passed hf slash w.links
    · exact ⟨slash, hw⟩
    · rw [hu] at hne
      cases hne
  | @stride w x u hs _ ih =>
    obtain ⟨left, hw, ⟨hnil, -⟩ | ⟨name, ns, ns', hnames, rfl, hn⟩⟩ :=
      hn.passed hs.folder slash w.links
    · cases hs <;> cases hnil
    · have goes {x' : Waypoint} (hs' : Stride look .target ⟨slash, w.links, w.loc, name :: ns'⟩ x')
          (hrest : ∃ s, Way look .target x' ⟨s, u.links, u.loc, []⟩) :
          ∃ s, Way look .target ⟨slash, w.links, w.loc, names⟩ ⟨s, u.links, u.loc, []⟩ :=
        hrest.imp fun _ hrest => hw.trans (.stride hs' hrest)
      cases hs with
      | here hf' =>
        obtain ⟨rfl, rfl⟩ := List.cons.inj hnames
        exact goes (.here hf') (ih hu hf hn slash)
      | parent hf' =>
        obtain ⟨rfl, rfl⟩ := List.cons.inj hnames
        exact goes (.parent hf') (ih hu hf hn slash)
      | down hf' hp _ hnode hl =>
        obtain ⟨rfl, rfl⟩ := List.cons.inj hnames
        exact goes (.down hf' hp (admits_target _ _) hnode hl) (ih hu hf hn slash)
      | @link _ _ _ _ _ target hf' hp _ hnode _ =>
        obtain ⟨rfl, rfl⟩ := List.cons.inj hnames
        exact goes (.link hf' hp (admits_target _ _) hnode (by simp [Aim.keepsLink]))
          (ih hu hf (hn.append (steps target)) _)

/-- No link stands at a location or below it. -/
def LinkFree (t : FileTree) (top : Location) : Prop :=
  ∀ loc target, top <+: loc → t.get? loc ≠ some (.link target)

variable {t : FileTree}

/-- What is found is found by the moves of a path. -/
theorem way_of_moves {p : Path} {loc : Location} {node : Node}
    (h : t.find .target p = .ok (.taken loc node)) (slash : Bool) :
    ∃ s links, Way t.get? .target
      ⟨slash, maxLinks, if p.isAbsolute then [] else t.here, p.moves⟩ ⟨s, links, loc, []⟩ := by
  obtain ⟨-, u, hw, he⟩ := find_eq_ok_iff.mp h
  cases he with
  | @taken s links _ _ _ _ =>
    have hn : Undotted (t.outset p).names p.moves := by
      rw [← Path.filter_steps]
      exact undotted_filter (steps p)
    obtain ⟨s, hw⟩ := hw.undotted rfl hn slash
    exact ⟨s, links, hw⟩
  | kept _ _ _ _ hk => exact absurd hk (by simp [Aim.keepsLink])

/-- Plain names behind the components of a folder lead down from it. -/
theorem loc_of_components {root p : Path} {top loc : Location} {node : Node}
    {names : List (List Char)} (hroot : t.find .target root = .ok (.taken top .folder))
    (h : t.find .target p = .ok (.taken loc node))
    (hc : p.components = root.components ++ names.map .name) (hp : ∀ name ∈ names, Plain name)
    (hl : t.LinkFree top) : loc = along top names := by
  obtain ⟨hutterable, -⟩ := find_eq_ok_iff.mp hroot
  have hstart : p.isAbsolute = root.isAbsolute := by
    obtain ⟨c, cs, hcomponents⟩ :=
      List.exists_cons_of_ne_nil (Path.components_ne_nil hutterable.nonempty)
    rw [Bool.eq_iff_iff, Path.isAbsolute_iff_root, Path.isAbsolute_iff_root, hc, hcomponents]
    rfl
  obtain ⟨s, links, hw⟩ := way_of_moves h false
  rw [Path.moves_of_components hc, hstart] at hw
  rcases hw.split rfl false with ⟨s₁, s₂, links', loc', hfirst, hrest⟩ | ⟨left, hleft, hnames⟩
  · obtain ⟨s₃, links₃, hfolder⟩ := way_of_moves hroot false
    obtain ⟨-, -, rfl, -⟩ := Waypoint.mk.inj (hfirst.unique hfolder rfl rfl)
    obtain ⟨passed, hpassed, hloc, -⟩ :=
      hrest.descent (fun l hbelow _ target => hl l target hbelow) List.prefix_rfl hp
    rw [List.append_nil] at hpassed
    rw [← hpassed] at hloc
    exact hloc
  · exact absurd hnames (by simp [hleft])

/-- In a tree without links an absolute path that never goes up leads to the location that it
spells. -/
theorem components_of_absolute {p : Path} {loc : Location} {node : Node}
    (h : t.find .target p = .ok (.taken loc node)) (habsolute : p.isAbsolute = true)
    (hparent : Path.Component.parent ∉ p.components) (hl : t.LinkFree []) :
    p.components = .root :: loc.map fun name => .name name.toList := by
  obtain ⟨names, htrail, hplain⟩ := Path.exists_names hparent
  have hcomponents : p.components = Path.components ⟨"/"⟩ ++ names.map .name := by
    rw [Path.components_of_absolute habsolute, htrail]
    rfl
  have hroot : t.find .target ⟨"/"⟩ = .ok (.taken [] .folder) :=
    find_eq_ok_iff.mpr ⟨⟨by decide, by decide, by decide⟩, _, .done _, .taken rfl fun _ _ => rfl⟩
  have hloc := loc_of_components hroot h hcomponents hplain hl
  rw [hcomponents, hloc, along, List.nil_append, List.map_map]
  simp [Function.comp_def]
  rfl

end FileTree
end Conformance
