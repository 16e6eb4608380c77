import Conformance.Proofs.Files.Way
import Mathlib.Tactic.SplitIfs

/-!
# What is found at the end of a path

What was written at the end of a path is read there, unless a device stands there, which keeps
nothing (`read_of_write`). After a file was removed, or could not be, no file is found by its path
(`isFile_of_removeFile`).
-/
namespace Conformance.FileTree

/-- The second look shows every folder and every link of the first, and something that is no link
wherever the first one does. -/
structure Opens (look look' : Location → Option Node) : Prop where
  folder : ∀ {loc : Location}, look loc = some .folder → look' loc = some .folder
  link : ∀ {loc : Location} {target : Path},
    look loc = some (.link target) → look' loc = some (.link target)
  other : ∀ {loc : Location} {node : Node}, look loc = some node →
    (∀ target, node ≠ .link target) →
      ∃ node', look' loc = some node' ∧ ∀ target, node' ≠ .link target

theorem Stride.opens {look look' : Location → Option Node} {aim : Aim} {w u : Waypoint}
    (h : Stride look aim w u) (ho : Opens look look') : Stride look' aim w u := by
  cases h with
  | here hf => exact .here (ho.folder hf)
  | parent hf => exact .parent (ho.folder hf)
  | down hf hp ha hn hl =>
    obtain ⟨node', hn', hl'⟩ := ho.other hn hl
    exact .down (ho.folder hf) hp ha hn' hl'
  | link hf hp ha hn hk => exact .link (ho.folder hf) hp ha (ho.link hn) hk

theorem Way.opens {look look' : Location → Option Node} {aim : Aim} {w u : Waypoint}
    (h : Way look aim w u) (ho : Opens look look') : Way look' aim w u := by
  induction h with
  | done w => exact .done w
  | stride hs _ ih => exact .stride (hs.opens ho) ih

theorem admits_target (slash : Bool) (names : List (List Char)) : Admits .target slash names := rfl

/-- Every stride may be made when all links are followed. -/
theorem Stride.target {look : Location → Option Node} {aim : Aim} {w u : Waypoint}
    (h : Stride look aim w u) : Stride look .target w u := by
  cases h with
  | here hf => exact .here hf
  | parent hf => exact .parent hf
  | down hf hp _ hn hl => exact .down hf hp (admits_target _ _) hn hl
  | link hf hp _ hn _ => exact .link hf hp (admits_target _ _) hn (by simp [Aim.keepsLink])

theorem Way.target {look : Location → Option Node} {aim : Aim} {w u : Waypoint}
    (h : Way look aim w u) : Way look .target w u := by
  induction h with
  | done w => exact .done w
  | stride hs _ ih => exact .stride hs.target ih

/-- A slash at the end of a path stays there. -/
theorem Way.slash {look : Location → Option Node} {aim : Aim} {w u : Waypoint}
    (h : Way look aim w u) (hs : w.slash = true) : u.slash = true := by
  induction h with
  | done _ => exact hs
  | stride hstride _ ih =>
    apply ih
    cases hstride with
    | here | parent | down => exact hs
    | link => exact Bool.or_eq_true_iff.mpr (.inl hs)

theorem Ends.get?_taken {look : Location → Option Node} {aim : Aim} {w : Waypoint}
    {loc : Location} {node : Node} (h : Ends look aim w (.taken loc node)) :
    look loc = some node := by
  cases h with
  | taken hn _ => exact hn
  | kept _ _ _ hn _ => exact hn

theorem Ends.get?_free {look : Location → Option Node} {aim : Aim} {w : Waypoint}
    {loc : Location} (h : Ends look aim w (.free loc)) : look loc = none := by
  cases h with
  | free _ _ _ hn => exact hn

theorem get?_of_find_taken {t : FileTree} {aim : Aim} {p : Path} {loc : Location} {node : Node}
    (h : t.find aim p = .ok (.taken loc node)) : t.get? loc = some node := by
  obtain ⟨-, u, -, he⟩ := find_eq_ok_iff.mp h
  exact he.get?_taken

theorem get?_of_find_free {t : FileTree} {aim : Aim} {p : Path} {loc : Location}
    (h : t.find aim p = .ok (.free loc)) : t.get? loc = none := by
  obtain ⟨-, u, -, he⟩ := find_eq_ok_iff.mp h
  exact he.get?_free

/-- A path of one name leads to a free place where nothing has that name. -/
theorem find_free {t : FileTree} {aim : Aim} {p : Path} {name : List Char} (hp : Utterable p)
    (hsteps : steps p = [name]) (hname : Proper name) (hslash : p.endsWithSlash = false)
    (hhere : t.here = []) (hnone : t.get? [String.ofList name] = none) :
    t.find aim p = .ok (.free [String.ofList name]) := by
  have houtset : t.outset p = ⟨false, maxLinks, [], [name]⟩ := by
    rw [outset, hsteps, hslash, hhere, ite_self]
  refine find_eq_ok_iff.mpr ⟨hp, _, .done _, ?_⟩
  rw [houtset]
  exact .free rfl hname (by simp [Admits]) hnone

/-- A path of more than one name leads nowhere where nothing has the first one. -/
theorem find_missing {t : FileTree} {aim : Aim} {p : Path} {name : List Char}
    {names : List (List Char)} (hp : Utterable p) (hsteps : steps p = name :: names)
    (hname : Proper name) (hnames : names ≠ []) (hhere : t.here = [])
    (hnone : t.get? [String.ofList name] = none) : t.find aim p = .error .missing := by
  have hnext : t.get? (under [] name) = none := hnone
  rw [find_of_utterable hp, outset, hsteps, hhere, ite_self, followFrom,
    follow_proper rfl hname (by simp [Admits, hnames]), hnext]
  simp [hnames]

/-! ## What a path leads to -/

section
variable {t : FileTree} {p : Path} {loc : Location} {node : Node}

theorem node?_of_find (h : t.find .target p = .ok (.taken loc node)) : t.node? p = some node := by
  rw [node?, h]

theorem node?_of_free (h : t.find .target p = .ok (.free loc)) : t.node? p = none := by
  rw [node?, h]

theorem node?_of_error {e : FileError} (h : t.find .target p = .error e) : t.node? p = none := by
  rw [node?, h]

theorem isPresent_of_find (h : t.find .target p = .ok (.taken loc node)) :
    t.isPresent p = true := by
  rw [isPresent, node?_of_find h]
  rfl

theorem isFolder_of_find (h : t.find .target p = .ok (.taken loc .folder)) :
    t.isFolder p = true := by
  rw [isFolder, node?_of_find h]
  rfl

theorem isFile_of_folder (h : t.find .target p = .ok (.taken loc .folder)) :
    t.isFile p = false := by
  rw [isFile, node?_of_find h]

theorem isPresent_of_none (h : t.node? p = none) : t.isPresent p = false := by
  rw [isPresent, h]
  rfl

theorem isFolder_of_none (h : t.node? p = none) : t.isFolder p = false := by
  rw [isFolder, h]
  rfl

theorem isFile_of_none (h : t.node? p = none) : t.isFile p = false := by
  rw [isFile, h]

end

/-! ## Writing -/

/-- A file takes the place of what is no road: nothing that could be passed is closed by it. -/
theorem opens_put_file {t : FileTree} {loc : Location} (hr : loc ≠ [])
    (hf : t.get? loc ≠ some .folder) (hl : ∀ target, t.get? loc ≠ some (.link target))
    (content : Bytes) (mode : Nat) :
    Opens t.get? (t.put loc (.file content mode)).get? := by
  have hself := get?_put_file_self t hr content mode
  have hother := fun {other : Location} (h : other ≠ loc) =>
    get?_put_file_other t h content mode
  constructor
  · intro l h
    have hne : l ≠ loc := by rintro rfl; exact hf h
    rcases hother hne with h' | ⟨c, m, h', -⟩
    · rw [h', h]
    · rw [h] at h'; cases h'
  · intro l target h
    have hne : l ≠ loc := by rintro rfl; exact hl target h
    rcases hother hne with h' | ⟨c, m, h', -⟩
    · rw [h', h]
    · rw [h] at h'; cases h'
  · intro l node h hnode
    by_cases hne : l = loc
    · subst hne
      exact ⟨_, hself, fun target => nofun⟩
    · rcases hother hne with h' | ⟨c, m, -, h'⟩
      · exact ⟨node, by rw [h', h], hnode⟩
      · exact ⟨_, h', fun target => nofun⟩

/-- A file that was put where a file was to be written is found there. -/
theorem find_put_file {t : FileTree} {p : Path} {spot : Spot} (h : t.find .content p = .ok spot)
    (hf : t.get? spot.loc ≠ some .folder) (hl : ∀ target, t.get? spot.loc ≠ some (.link target))
    (content : Bytes) (mode : Nat) :
    (t.put spot.loc (.file content mode)).find .target p =
      .ok (.taken spot.loc (.file content mode)) := by
  have hr : spot.loc ≠ [] := by
    intro he
    exact hf (by rw [he]; rfl)
  obtain ⟨hu, w, hw, he⟩ := find_eq_ok_iff.mp h
  have ho := opens_put_file hr hf hl content mode
  have hself := get?_put_file_self t hr content mode
  refine find_eq_ok_iff.mpr ⟨hu, ?_⟩
  have hw' : Way (t.put spot.loc (.file content mode)).get? .target
      ((t.put spot.loc (.file content mode)).outset p) w := by
    have hh : (t.put spot.loc (.file content mode)).here = t.here := here_put t _ _
    rw [outset, hh]
    exact (hw.opens ho).target
  cases he with
  | @taken slash links loc node hn hs =>
    refine ⟨_, hw', .taken hself fun _ hslash => ?_⟩
    have hfolder : node = .folder := hs nofun hslash
    rw [hfolder] at hn
    exact absurd hn hf
  | @free slash links loc name hfolder hp ha hn =>
    have hslash : slash = false := by simpa [Admits] using ha
    refine ⟨⟨slash, links, under loc name, []⟩, hw'.trans (.stride ?_ (.done _)), ?_⟩
    · exact .down (ho.folder hfolder) hp rfl hself (fun target => nofun)
    · exact .taken hself fun _ hs => by rw [hslash] at hs; cases hs
  | kept _ _ _ _ hk => simp [Aim.keepsLink] at hk

/-- What a tree is after something was written at the end of a path. -/
theorem write_eq_ok {t t' : FileTree} {p : Path} {content : Bytes}
    (h : t.write p content = .ok t') :
    (∃ loc name, t.find .content p = .ok (.taken loc (.device name)) ∧ t' = t) ∨
      ∃ spot mode, t.find .content p = .ok spot ∧ t.get? spot.loc ≠ some .folder ∧
        (∀ target, t.get? spot.loc ≠ some (.link target)) ∧
        (∀ name, t.get? spot.loc ≠ some (.device name)) ∧
        t' = t.put spot.loc (.file content mode) := by
  unfold write at h
  split at h
  · cases h
  · rename_i loc hs
    have hn := get?_of_find_free hs
    refine .inr ⟨.free loc, Node.plainMode, hs, ?_, ?_, ?_, (Except.ok.inj h).symm⟩ <;>
      simp [Spot.loc, hn]
  · cases h
  · rename_i loc name hs
    split_ifs at h
    exact .inl ⟨loc, name, hs, (Except.ok.inj h).symm⟩
  · rename_i loc c mode hs
    have hn := get?_of_find_taken hs
    refine .inr ⟨_, mode, hs, ?_, ?_, ?_, (Except.ok.inj h).symm⟩ <;> simp [Spot.loc, hn]
  · rename_i loc name hs
    have hn := get?_of_find_taken hs
    refine .inr ⟨_, Node.plainMode, hs, ?_, ?_, ?_, (Except.ok.inj h).symm⟩ <;>
      simp [Spot.loc, hn]
  · cases h

/-- Where a file may be written, following all links leads to the same. -/
theorem find_target_of_find_content {t : FileTree} {p : Path} {loc : Location} {node : Node}
    (h : t.find .content p = .ok (.taken loc node)) : t.find .target p = .ok (.taken loc node) := by
  obtain ⟨hu, w, hw, he⟩ := find_eq_ok_iff.mp h
  refine find_eq_ok_iff.mpr ⟨hu, w, hw.target, ?_⟩
  cases he with
  | taken hn hs => exact .taken hn fun _ hslash => hs nofun hslash
  | kept _ _ _ _ hk => simp [Aim.keepsLink] at hk

/-- What was written at the end of a path is read there, unless a device stands there. -/
theorem read_of_write {t t' : FileTree} {p : Path} {content : Bytes}
    (h : t.write p content = .ok t') :
    t'.read p = .ok content ∨ ∃ name, t'.node? p = some (.device name) := by
  rcases write_eq_ok h with ⟨loc, name, hs, rfl⟩ | ⟨spot, mode, hs, hf, hl, -, rfl⟩
  · right
    exact ⟨name, by rw [node?, find_target_of_find_content hs]⟩
  · left
    rw [read, find_put_file hs hf hl]

/-! ## Removing -/

/-- Leaving a link at the end as it is ends at the same place, or at that link. -/
theorem Way.name_of_target {look : Location → Option Node} {w u : Waypoint} {loc : Location}
    {node : Node} (hw : Way look .target w u) (he : Ends look .target u (.taken loc node)) :
    ∃ v l n, Way look .name w v ∧ Ends look .name v (.taken l n) ∧
      (n = node ∨ ∃ target, n = .link target) := by
  induction hw with
  | done w =>
    cases he with
    | taken hn _ => exact ⟨_, _, _, .done _, .taken hn fun ha => absurd rfl ha, .inl rfl⟩
    | kept _ _ _ _ hk => simp [Aim.keepsLink] at hk
  | @stride w v u hs _ ih =>
    obtain ⟨x, l, n, hx, hn, hnode⟩ := ih he
    have goes (hs' : Stride look .name w v) : ∃ v l n, Way look .name w v ∧
        Ends look .name v (.taken l n) ∧ (n = node ∨ ∃ target, n = .link target) :=
      ⟨x, l, n, .stride hs' hx, hn, hnode⟩
    cases hs with
    | here hf => exact goes (.here hf)
    | parent hf => exact goes (.parent hf)
    | down hf hp _ hd hl => exact goes (.down hf hp rfl hd hl)
    | @link slash links loc name names target hf hp _ hd _ =>
      cases names with
      | nil => exact ⟨_, _, _, .done _, .kept hf hp rfl hd rfl, .inr ⟨target, rfl⟩⟩
      | cons n ns => exact goes (.link hf hp rfl hd rfl)

/-- Where nothing has the next name, no more than a free place is found. -/
theorem free_of_followFrom {t : FileTree} {slash : Bool} {links : Nat} {loc : Location}
    {name : List Char} {names : List (List Char)} {spot : Spot}
    (hf : t.get? loc = some .folder) (hp : Proper name) (hn : t.get? (under loc name) = none)
    (h : t.followFrom .target ⟨slash, links, loc, name :: names⟩ = .ok spot) :
    ∃ l, spot = .free l := by
  rw [followFrom, follow_proper hf hp (admits_target _ _), hn] at h
  dsimp only at h
  split_ifs at h
  exact ⟨_, (Except.ok.inj h).symm⟩

/-- Nothing is found any more at the end of a way whose last entry is gone. -/
theorem Way.follow_erase {t : FileTree} {w u : Waypoint} {loc : Location} {node : Node}
    (hw : Way t.get? .name w u) (he : Ends t.get? .name u (.taken loc node))
    (hf : node ≠ .folder) (spot : Spot) (hs : (t.erase loc).followFrom .target w = .ok spot) :
    ∃ l, spot = .free l := by
  have hn := he.get?_taken
  have hr : loc ≠ [] := by
    rintro rfl
    exact hf (Option.some.inj hn).symm
  have hfolder {l : Location} (h : t.get? l = some .folder) :
      (t.erase loc).get? l = some .folder := by
    have hne : l ≠ loc := by
      rintro rfl
      exact hf (Option.some.inj (hn.symm.trans h))
    rw [get?_erase_other t hne, h]
  induction hw with
  | done w =>
    cases he with
    | taken =>
      rw [followFrom, follow, get?_erase_self t hr] at hs
      cases hs
    | kept hd hp _ _ _ => exact free_of_followFrom (hfolder hd) hp (get?_erase_self t hr) hs
  | @stride w v u hstride _ ih =>
    have goes (h : Stride (t.erase loc).get? .target w v) : ∃ l, spot = .free l :=
      ih he (by rw [← followFrom_stride h, hs])
    cases hstride with
    | here hd => exact goes (.here (hfolder hd))
    | parent hd => exact goes (.parent (hfolder hd))
    | @down slash links l name names n hd hp _ hnext hl =>
      by_cases hloc : under l name = loc
      · subst hloc
        exact free_of_followFrom (hfolder hd) hp (get?_erase_self t hr) hs
      · exact goes (.down (hfolder hd) hp rfl (by rw [get?_erase_other t hloc, hnext]) hl)
    | @link slash links l name names target hd hp _ hnext hk =>
      by_cases hloc : under l name = loc
      · subst hloc
        exact free_of_followFrom (hfolder hd) hp (get?_erase_self t hr) hs
      · exact goes (.link (hfolder hd) hp rfl (by rw [get?_erase_other t hloc, hnext])
          (by simp [Aim.keepsLink]))

theorem taken_of_isFile {t : FileTree} {p : Path} (h : t.isFile p = true) :
    ∃ loc node, t.find .target p = .ok (.taken loc node) ∧ node ≠ .folder := by
  have found {node : Node} (hnode : t.node? p = some node) (hf : node ≠ .folder) :
      ∃ loc node, t.find .target p = .ok (.taken loc node) ∧ node ≠ .folder := by
    unfold node? at hnode
    split at hnode
    · rename_i loc n hfind
      exact ⟨loc, n, hfind, by rwa [Option.some.inj hnode]⟩
    · cases hnode
  unfold isFile at h
  split at h
  · rename_i hnode
    exact found hnode nofun
  · rename_i hnode
    exact found hnode nofun
  · cases h

/-- A file that is found is found with the last link left as it is, or a link is. -/
theorem find_name_of_isFile {t : FileTree} {p : Path} (h : t.isFile p = true) :
    p.endsWithSlash = false ∧
      ∃ loc node, t.find .name p = .ok (.taken loc node) ∧ node ≠ .folder := by
  obtain ⟨loc, node, hfind, hf⟩ := taken_of_isFile h
  obtain ⟨hu, w, hw, he⟩ := find_eq_ok_iff.mp hfind
  constructor
  · cases hs : p.endsWithSlash with
    | false => rfl
    | true =>
      have hslash := hw.slash hs
      cases he with
      | taken _ hfolder => exact absurd (hfolder nofun hslash) hf
      | kept _ _ _ _ hk => simp [Aim.keepsLink] at hk
  · obtain ⟨v, l, n, hv, hn, hnode⟩ := hw.name_of_target he
    refine ⟨l, n, find_eq_ok_iff.mpr ⟨hu, v, hv, hn⟩, ?_⟩
    rcases hnode with rfl | ⟨target, rfl⟩
    · exact hf
    · nofun

/-- No file is found by a path whose file was removed. -/
theorem isFile_of_removeFile_ok {t t' : FileTree} {p : Path} (h : t.removeFile p = .ok t') :
    t'.isFile p = false := by
  unfold removeFile at h
  split at h
  · cases h
  · cases h
  · cases h
  · rename_i loc node hfolder hfind
    split_ifs at h
    obtain rfl := Except.ok.inj h
    obtain ⟨-, w, hw, he⟩ := find_eq_ok_iff.mp hfind
    refine Bool.of_not_eq_true fun hp => ?_
    obtain ⟨l, n, hfound, -⟩ := taken_of_isFile hp
    obtain ⟨-, v, hv, hn⟩ := find_eq_ok_iff.mp hfound
    obtain ⟨l', hl'⟩ := hw.follow_erase he hfolder _ (follow_eq_ok_iff.mpr ⟨v, hv, hn⟩)
    cases hl'

/-- What cannot be removed as a file is none. -/
theorem isFile_of_removeFile_error {t : FileTree} {p : Path} {e : FileError}
    (h : t.removeFile p = .error e) : t.isFile p = false := by
  refine Bool.of_not_eq_true fun hp => ?_
  obtain ⟨hs, loc, node, hfind, hf⟩ := find_name_of_isFile hp
  unfold removeFile at h
  rw [hfind] at h
  cases node with
  | folder => exact absurd rfl hf
  | file | link | program | device => simp [hs] at h

end Conformance.FileTree
