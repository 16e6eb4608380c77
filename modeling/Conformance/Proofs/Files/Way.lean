import Conformance.Files.Access
import Mathlib.Logic.Basic

/-!
# Ways through a file tree

Following a path is a run of strides, each of which uses up one name, and an end. A stride looks at
no more than the folder it starts from and the name it goes to, so a way stays open in every tree
that looks the same at those places. `follow_eq_ok_iff` says that a path is followed to a spot
exactly if there is a way whose end is that spot.
-/
namespace Conformance.FileTree

/-- How far a path was followed: whether a slash stands at its end, how many links may still be
followed, the location reached and the names that are left. -/
structure Waypoint where
  slash : Bool
  links : Nat
  loc : Location
  names : List (List Char)

/-- A name that asks for an entry of its own and is not too long for one. -/
structure Proper (name : List Char) : Prop where
  not_here : name ≠ ['.']
  not_parent : name ≠ ['.', '.']
  fits : ¬ maxNameBytes < Text.byteLength name

/-- The location of a name in a folder. -/
def under (loc : Location) (name : List Char) : Location :=
  loc ++ [String.ofList name]

/-- Where the target of a link that stands in a folder starts. -/
def startOf (loc : Location) (target : Path) : Location :=
  if target.isAbsolute then [] else loc

/-- The last name of a path where a file is to be written has no slash behind it. -/
def Admits (aim : Aim) (slash : Bool) (names : List (List Char)) : Prop :=
  (decide (aim = .content) && slash && names.isEmpty) = false

/-- One stride, for whatever stands at each location. -/
inductive Stride (look : Location → Option Node) (aim : Aim) : Waypoint → Waypoint → Prop
  | here {slash : Bool} {links : Nat} {loc : Location} {names : List (List Char)} :
      look loc = some .folder →
      Stride look aim ⟨slash, links, loc, ['.'] :: names⟩ ⟨slash, links, loc, names⟩
  | parent {slash : Bool} {links : Nat} {loc : Location} {names : List (List Char)} :
      look loc = some .folder →
      Stride look aim ⟨slash, links, loc, ['.', '.'] :: names⟩ ⟨slash, links, loc.dropLast, names⟩
  | down {slash : Bool} {links : Nat} {loc : Location} {name : List Char}
      {names : List (List Char)} {node : Node} :
      look loc = some .folder → Proper name → Admits aim slash names →
      look (under loc name) = some node → (∀ target, node ≠ .link target) →
      Stride look aim ⟨slash, links, loc, name :: names⟩ ⟨slash, links, under loc name, names⟩
  | link {slash : Bool} {links : Nat} {loc : Location} {name : List Char}
      {names : List (List Char)} {target : Path} :
      look loc = some .folder → Proper name → Admits aim slash names →
      look (under loc name) = some (.link target) → (names.isEmpty && aim.keepsLink slash) = false →
      Stride look aim ⟨slash, links + 1, loc, name :: names⟩
        ⟨slash || (names.isEmpty && target.endsWithSlash), links, startOf loc target,
          steps target ++ names⟩

inductive Way (look : Location → Option Node) (aim : Aim) : Waypoint → Waypoint → Prop
  | done (w : Waypoint) : Way look aim w w
  | stride {w u v : Waypoint} : Stride look aim w u → Way look aim u v → Way look aim w v

/-- Where a way ends. -/
inductive Ends (look : Location → Option Node) (aim : Aim) : Waypoint → Spot → Prop
  | taken {slash : Bool} {links : Nat} {loc : Location} {node : Node} :
      look loc = some node → (aim ≠ .name → slash = true → node = .folder) →
      Ends look aim ⟨slash, links, loc, []⟩ (.taken loc node)
  | free {slash : Bool} {links : Nat} {loc : Location} {name : List Char} :
      look loc = some .folder → Proper name → Admits aim slash [] →
      look (under loc name) = none →
      Ends look aim ⟨slash, links, loc, [name]⟩ (.free (under loc name))
  | kept {slash : Bool} {links : Nat} {loc : Location} {name : List Char} {target : Path} :
      look loc = some .folder → Proper name → Admits aim slash [] →
      look (under loc name) = some (.link target) → aim.keepsLink slash = true →
      Ends look aim ⟨slash, links, loc, [name]⟩ (.taken (under loc name) (.link target))

theorem Way.trans {look : Location → Option Node} {aim : Aim} {u v w : Waypoint}
    (h : Way look aim u v) (k : Way look aim v w) : Way look aim u w := by
  induction h with
  | done _ => exact k
  | stride hs _ ih => exact .stride hs (ih k)

/-- Following a path from a waypoint. -/
def followFrom (t : FileTree) (aim : Aim) (w : Waypoint) : Except FileError Spot :=
  t.follow aim w.slash w.links w.loc w.names

/-- Where a path is followed to hangs on what stands at the locations, not on how a tree is kept. -/
theorem follow_congr {t t' : FileTree} (h : t'.get? = t.get?) (aim : Aim) (slash : Bool)
    (links : Nat) (loc : Location) (names : List (List Char)) :
    t'.follow aim slash links loc names = t.follow aim slash links loc names := by
  fun_induction follow t aim slash links loc names with
  | case1 _ _ _ _ hn hs | case2 _ _ _ _ hn hs =>
    simp only [follow, h, hn, hs]
    rfl
  | case3 _ _ _ hn => simp only [follow, h, hn]
  | case4 _ _ _ _ _ hf => rw [follow, h, if_pos hf]
  | case5 _ _ _ _ hf ih => rw [follow, h, if_neg hf, if_pos rfl, ih]
  | case6 _ _ _ _ hf h1 ih => rw [follow, h, if_neg hf, if_neg h1, if_pos rfl, ih]
  | case7 _ _ _ _ _ hf h1 h2 ha => rw [follow, h, if_neg hf, if_neg h1, if_neg h2, if_pos ha]
  | case8 _ _ _ _ _ hf h1 h2 ha hb =>
    rw [follow, h, if_neg hf, if_neg h1, if_neg h2, if_neg ha, if_pos hb]
  -- From here on the name is proper, and what has it decides.
  | case9 _ _ _ _ _ hf h1 h2 ha hb next hn hk | case10 _ _ _ _ _ hf h1 h2 ha hb next hn hk
  | case11 _ _ _ _ _ hf h1 h2 ha hb next _ hn hk | case12 _ _ _ _ hf h1 h2 ha hb next _ hn hk =>
    rw [follow, h, if_neg hf, if_neg h1, if_neg h2, if_neg ha, if_neg hb]
    simp only [next] at hn
    simp only [hn, hk]
    rfl
  | case13 _ _ _ _ hf h1 h2 ha hb next _ hn hk _ _ ih =>
    rw [follow, h, if_neg hf, if_neg h1, if_neg h2, if_neg ha, if_neg hb]
    simp only [next] at hn
    simp only [hn, hk]
    exact ih
  | case14 _ _ _ _ _ hf h1 h2 ha hb next node hl hn ih =>
    rw [follow, h, if_neg hf, if_neg h1, if_neg h2, if_neg ha, if_neg hb]
    simp only [next] at hn
    simp only [hn]
    cases node with
    | link target => exact absurd rfl (hl target)
    | folder | file | program | device => exact ih

theorem folder_ne_link (target : Path) : Node.folder ≠ .link target := by
  intro h
  cases h

/-- Following a proper name hangs on what has that name. -/
theorem follow_proper {t : FileTree} {aim : Aim} {slash : Bool} {links : Nat} {loc : Location}
    {name : List Char} {names : List (List Char)} (hf : t.get? loc = some .folder)
    (hp : Proper name) (ha : Admits aim slash names) :
    t.follow aim slash links loc (name :: names) =
      match t.get? (under loc name) with
      | none => if names.isEmpty then .ok (.free (under loc name)) else .error .missing
      | some (.link target) =>
        if names.isEmpty && aim.keepsLink slash then .ok (.taken (under loc name) (.link target))
        else match links with
          | 0 => .error .tooManyLinks
          | links + 1 =>
            t.follow aim (slash || (names.isEmpty && target.endsWithSlash)) links
              (startOf loc target) (steps target ++ names)
      | some _ => t.follow aim slash links (under loc name) names := by
  rw [follow, if_neg (by simp [hf]), if_neg hp.not_here, if_neg hp.not_parent,
    if_neg (by rw [ha]; exact Bool.false_ne_true), if_neg hp.fits]
  rfl

theorem followFrom_stride {t : FileTree} {aim : Aim} {w u : Waypoint}
    (h : Stride t.get? aim w u) : t.followFrom aim w = t.followFrom aim u := by
  cases h with
  | here hf => simp [followFrom, follow, hf]
  | parent hf => simp [followFrom, follow, hf]
  | down hf hp ha hn hl =>
    rw [followFrom, follow_proper hf hp ha, hn]
    split
    · contradiction
    · rename_i target h
      exact absurd (Option.some.inj h) (hl target)
    · rfl
  | link hf hp ha hn hk =>
    rw [followFrom, follow_proper hf hp ha, hn]
    simp only [hk, Bool.false_eq_true, if_false]
    rfl

theorem followFrom_way {t : FileTree} {aim : Aim} {w u : Waypoint} (h : Way t.get? aim w u) :
    t.followFrom aim w = t.followFrom aim u := by
  induction h with
  | done _ => rfl
  | stride hs _ ih => exact (followFrom_stride hs).trans ih

theorem followFrom_ends {t : FileTree} {aim : Aim} {w : Waypoint} {spot : Spot}
    (h : Ends t.get? aim w spot) : t.followFrom aim w = .ok spot := by
  cases h with
  | @taken slash links loc node hn hs =>
    have hc : (decide (aim ≠ .name) && slash && node != .folder) = false := by
      by_cases ha : aim = .name
      · simp [ha]
      · cases slash with
        | false => simp
        | true => simp [hs ha rfl]
    rw [followFrom, follow, hn]
    simp only [hc, Bool.false_eq_true, if_false]
  | free hf hp ha hn =>
    rw [followFrom, follow_proper hf hp ha, hn]
    rfl
  | kept hf hp ha hn hk =>
    rw [followFrom, follow_proper hf hp ha, hn]
    simp [hk]

/-- Whatever a path is followed to lies at the end of a way. -/
theorem way_of_follow {t : FileTree} {aim : Aim} {slash : Bool} {links : Nat} {loc : Location}
    {names : List (List Char)} {spot : Spot}
    (h : t.follow aim slash links loc names = .ok spot) :
    ∃ w, Way t.get? aim ⟨slash, links, loc, names⟩ w ∧ Ends t.get? aim w spot := by
  fun_induction follow t aim slash links loc names with
  | case2 slash links loc node hn hs =>
    obtain rfl := Except.ok.inj h
    refine ⟨_, .done _, .taken hn fun ha hsl => ?_⟩
    simpa [ha, hsl] using hs
  | case5 slash links loc names hf ih =>
    obtain ⟨w, hw, he⟩ := ih h
    exact ⟨w, .stride (.here (not_not.mp hf)) hw, he⟩
  | case6 slash links loc names hf _ ih =>
    obtain ⟨w, hw, he⟩ := ih h
    exact ⟨w, .stride (.parent (not_not.mp hf)) hw, he⟩
  | case9 slash links loc name names hf h1 h2 ha hb next hn hnames =>
    obtain rfl := Except.ok.inj h
    obtain rfl := List.isEmpty_iff.mp hnames
    exact ⟨_, .done _, .free (not_not.mp hf) ⟨h1, h2, hb⟩ (Bool.of_not_eq_true ha) hn⟩
  | case11 slash links loc name names hf h1 h2 ha hb next target hn hk =>
    obtain rfl := Except.ok.inj h
    obtain ⟨he, hk⟩ := Bool.and_eq_true_iff.mp hk
    obtain rfl := List.isEmpty_iff.mp he
    exact ⟨_, .done _,
      .kept (not_not.mp hf) ⟨h1, h2, hb⟩ (Bool.of_not_eq_true ha) hn hk⟩
  | case13 slash loc name names hf h1 h2 ha hb next target hn hk links start ih =>
    obtain ⟨w, hw, he⟩ := ih h
    exact ⟨w, .stride (.link (not_not.mp hf) ⟨h1, h2, hb⟩ (Bool.of_not_eq_true ha) hn
      (Bool.of_not_eq_true hk)) hw, he⟩
  | case14 slash links loc name names hf h1 h2 ha hb next node hl hn ih =>
    obtain ⟨w, hw, he⟩ := ih h
    exact ⟨w, .stride (.down (not_not.mp hf) ⟨h1, h2, hb⟩ (Bool.of_not_eq_true ha) hn
      fun target e => hl target e) hw, he⟩
  | _ => simp at h

/-- A path is followed to a spot exactly if a way ends there. -/
theorem follow_eq_ok_iff {t : FileTree} {aim : Aim} {w : Waypoint} {spot : Spot} :
    t.followFrom aim w = .ok spot ↔ ∃ u, Way t.get? aim w u ∧ Ends t.get? aim u spot := by
  constructor
  · exact way_of_follow
  · rintro ⟨u, hw, he⟩
    exact (followFrom_way hw).trans (followFrom_ends he)

/-- A path that the system can be given. -/
structure Utterable (p : Path) : Prop where
  no_nul : p.chars.contains '\x00' = false
  nonempty : p.chars ≠ []
  fits : ¬ maxPathBytes ≤ Text.byteLength p.chars

/-- Where a path is followed from. -/
def outset (t : FileTree) (p : Path) : Waypoint :=
  ⟨p.endsWithSlash, maxLinks, if p.isAbsolute then [] else t.here, steps p⟩

theorem find_of_utterable {p : Path} (h : Utterable p) (t : FileTree) (aim : Aim) :
    t.find aim p = t.followFrom aim (t.outset p) := by
  unfold find
  rw [if_neg (by rw [h.no_nul]; exact Bool.false_ne_true), if_neg h.nonempty, if_neg h.fits]
  rfl

theorem find_eq_ok_iff {t : FileTree} {aim : Aim} {p : Path} {spot : Spot} :
    t.find aim p = .ok spot ↔
      Utterable p ∧ ∃ u, Way t.get? aim (t.outset p) u ∧ Ends t.get? aim u spot := by
  rw [← follow_eq_ok_iff]
  constructor
  · intro h
    unfold find at h
    by_cases h1 : p.chars.contains '\x00' = true
    · rw [if_pos h1] at h
      cases h
    by_cases h2 : p.chars = []
    · rw [if_neg h1, if_pos h2] at h
      cases h
    by_cases h3 : maxPathBytes ≤ Text.byteLength p.chars
    · rw [if_neg h1, if_neg h2, if_pos h3] at h
      cases h
    rw [if_neg h1, if_neg h2, if_neg h3] at h
    exact ⟨⟨Bool.of_not_eq_true h1, h2, h3⟩, h⟩
  · rintro ⟨hp, h⟩
    rw [find_of_utterable hp, h]

end Conformance.FileTree
