import Conformance.Proofs.Annotated.Pragmas
import Conformance.Proofs.Text.Lines

/-!
# Where a header ends

A text is cut at its first line that is nothing but the comment mark. Reading the header finds this
cut, and ends well exactly if all lines before it are blank or comments and their pragmas are well
formed; it has then what these lines say, and all that follows is left as it is.
-/
namespace Conformance.Annotated

open Text (Span)

/-- A line that is nothing but the comment mark, blanks around it put aside. -/
def IsSeparator (line : List Char) : Prop :=
  Text.trim line = ['/', '/']

/-- A text is made of the lines of a header, the first line that is a separator, and a body. All
these lines are whole: behind one that lacks its line feed there is no body. -/
structure Cut (content : List Char) (header : List (List Char)) (separator body : List Char) :
    Prop where
  text : header.flatten ++ (separator ++ body) = content
  whole : ∀ l ∈ header ++ [separator], Text.WholeLine l
  separates : IsSeparator separator
  first : ∀ l ∈ header, ¬ IsSeparator l

/-- A line that may stand in a header: a blank one, or a comment. -/
def IsHeaderLine (line : List Char) : Prop :=
  Text.trim line = [] ∨ ∃ text, Text.trim line = '/' :: '/' :: text

theorem pragma?_eq {line text : List Char} (h : Text.trim line = '/' :: '/' :: text) :
    pragma? text =
      match pragmaWords line with
      | [] => none
      | keyword :: args => some (keyword, args) := by
  rw [pragmaWords, h]
  cases text with
  | nil => rfl
  | cons c text =>
    simp only [pragma?]
    split
    · rfl
    · cases Text.words (c :: text) <;> rfl

/-- What a step of reading makes of a line. -/
theorem splitFrom_cons {content : List Char} {n : Nat} {h : Header} {line : List Char}
    (hline : IsHeaderLine line) (hfirst : ¬ IsSeparator line) (lines : List (List Char)) :
    splitFrom content n h (line :: lines) =
      match pragmaWords line with
      | [] => splitFrom content (n + 1) h lines
      | keyword :: args =>
        match h.add (.ofLine content n) keyword args with
        | .error fault => .error (fault, .ofLine content n)
        | .ok h' => splitFrom content (n + 1) h' lines := by
  rw [splitFrom, Line.ofChars]
  rcases hline with hblank | ⟨text, htext⟩
  · rw [pragmaWords, hblank]
  · have hne : text ≠ [] := by
      rintro rfl
      exact hfirst htext
    obtain ⟨c, text, rfl⟩ := List.exists_cons_of_ne_nil hne
    rw [htext]
    simp only [pragma?_eq htext]
    cases pragmaWords line <;> rfl

theorem splitFrom_separator {content : List Char} {n : Nat} {h : Header} {line : List Char}
    (hline : IsSeparator line) (lines : List (List Char)) :
    splitFrom content n h (line :: lines) = .ok (h, lines.flatten) := by
  have htrim : Text.trim line = ['/', '/'] := hline
  rw [splitFrom, Line.ofChars, htrim]
  rfl

theorem ofChars_other {line : List Char} (hline : ¬ IsHeaderLine line) :
    Line.ofChars line = .other := by
  unfold Line.ofChars
  split <;> rename_i htrim
  · exact absurd (.inl htrim) hline
  · exact absurd (.inr ⟨[], htrim⟩) hline
  · exact absurd (.inr ⟨_, htrim⟩) hline
  · rfl

theorem SoundPragmas.of_append {lines others : List (List Char)}
    (h : SoundPragmas (lines ++ others)) : SoundPragmas lines := by
  have hmem : ∀ {k args}, args ∈ argsOf k lines → args ∈ argsOf k (lines ++ others) := by
    intro k args hargs
    rw [argsOf_append]
    exact List.mem_append_left _ hargs
  refine ⟨fun k hk => ?_, fun k hk args hargs => h.codes k hk args (hmem hargs),
    fun k hk args hargs => h.features k hk args (hmem hargs),
    fun args hargs => h.scenarios args (hmem hargs)⟩
  have honce := h.once k hk
  rw [argsOf_append, List.length_append] at honce
  omega

/-- If reading ends well there was a separator, and the lines before it are in the header. -/
theorem of_splitFrom {content body : List Char} {n : Nat} {h h' : Header}
    {lines before : List (List Char)} (hof : h.Of before)
    (hsplit : splitFrom content n h lines = .ok (h', body)) :
    ∃ header separator rest, lines = header ++ separator :: rest ∧ rest.flatten = body ∧
      IsSeparator separator ∧ (∀ l ∈ header, IsHeaderLine l ∧ ¬ IsSeparator l) ∧
      h'.Of (before ++ header) := by
  induction lines generalizing n h before with
  | nil => cases hsplit
  | cons line lines ih =>
    by_cases hsep : IsSeparator line
    · rw [splitFrom_separator hsep] at hsplit
      obtain ⟨rfl, rfl⟩ := Prod.mk.inj (Except.ok.inj hsplit)
      exact ⟨[], line, lines, rfl, rfl, hsep, nofun, by rwa [List.append_nil]⟩
    by_cases hline : IsHeaderLine line
    · -- Whatever the line is, reading goes on with a header that has it.
      have hnext : ∃ h₁ n₁, h₁.Of (before ++ [line]) ∧
          splitFrom content n₁ h₁ lines = .ok (h', body) := by
        rw [splitFrom_cons hline hsep] at hsplit
        split at hsplit
        · exact ⟨h, n + 1, hof.prose ‹_›, hsplit⟩
        · split at hsplit
          · cases hsplit
          · exact ⟨_, n + 1, hof.add ‹_› ‹_›, hsplit⟩
      obtain ⟨h₁, n₁, hof₁, hsplit₁⟩ := hnext
      obtain ⟨header, separator, rest, rfl, hrest, hseparator, hheader, hof'⟩ := ih hof₁ hsplit₁
      refine ⟨line :: header, separator, rest, rfl, hrest, hseparator, ?_, ?_⟩
      · exact List.forall_mem_cons.mpr ⟨⟨hline, hsep⟩, hheader⟩
      · rwa [List.append_assoc, List.singleton_append] at hof'
    · rw [splitFrom, ofChars_other hline] at hsplit
      cases hsplit

/-- Reading goes past well-formed lines, with a header that has them. -/
theorem splitFrom_passes (content : List Char) {lines : List (List Char)}
    (hlines : ∀ l ∈ lines, IsHeaderLine l ∧ ¬ IsSeparator l) (n : Nat) {h : Header}
    {before : List (List Char)} (hof : h.Of before) (hsound : SoundPragmas (before ++ lines))
    (rest : List (List Char)) :
    ∃ h', splitFrom content n h (lines ++ rest) = splitFrom content (n + lines.length) h' rest ∧
      h'.Of (before ++ lines) := by
  induction lines generalizing n h before with
  | nil => exact ⟨h, rfl, by rwa [List.append_nil]⟩
  | cons line lines ih =>
    obtain ⟨⟨hline, hsep⟩, hlines⟩ := List.forall_mem_cons.mp hlines
    have happend : before ++ line :: lines = before ++ [line] ++ lines := by simp
    have hlength : n + (line :: lines).length = n + 1 + lines.length := by
      rw [List.length_cons]
      omega
    rw [happend] at hsound ⊢
    rw [hlength, List.cons_append, splitFrom_cons hline hsep]
    split
    · exact ih hlines (n + 1) (hof.prose ‹_›) hsound
    · rename_i keyword args hpragma
      obtain ⟨h₁, hadd⟩ := hof.exists_add (.ofLine content n) hpragma hsound.of_append
      rw [hadd]
      exact ih hlines (n + 1) (hof.add hpragma hadd) hsound

/-- Reading well-formed lines ends at the separator. -/
theorem exists_splitFrom (content : List Char) {separator : List Char}
    (hseparator : IsSeparator separator) (rest : List (List Char)) {header : List (List Char)}
    (hheader : ∀ l ∈ header, IsHeaderLine l ∧ ¬ IsSeparator l) (n : Nat) {h : Header}
    {before : List (List Char)} (hof : h.Of before) (hsound : SoundPragmas (before ++ header)) :
    ∃ h', splitFrom content n h (header ++ separator :: rest) = .ok (h', rest.flatten) ∧
      h'.Of (before ++ header) := by
  obtain ⟨h', hsplit, hof'⟩ := splitFrom_passes content hheader n hof hsound (separator :: rest)
  exact ⟨h', hsplit.trans (splitFrom_separator hseparator rest), hof'⟩

/-- A header that is read well is cut off its text, and has what its lines say. -/
theorem of_split {content body : List Char} {h : Header} (hsplit : split content = .ok (h, body))
    (hbody : body ≠ []) :
    ∃ header separator, Cut content header separator body ∧ (∀ l ∈ header, IsHeaderLine l) ∧
      h.Of header := by
  obtain ⟨header, separator, rest, hlines, rfl, hseparator, hheader, hof⟩ :=
    of_splitFrom .start hsplit
  have hrest : rest ≠ [] := by
    rintro rfl
    exact hbody rfl
  refine ⟨header, separator, ⟨?_, ?_, hseparator, fun l hl => (hheader l hl).2⟩,
    fun l hl => (hheader l hl).1, hof⟩
  · rw [← Text.linesKeepingEnds_flatten content, hlines]
    simp
  · exact Text.wholeLine_of_mem (by simpa using hlines) hrest

/-- The lines of a text that is cut. -/
theorem Cut.lines {content body separator : List Char} {header : List (List Char)}
    (hcut : Cut content header separator body) :
    Text.linesKeepingEnds content = header ++ separator :: Text.linesKeepingEnds body := by
  obtain ⟨hlines, hline⟩ := List.forall_mem_append.mp hcut.whole
  rw [← hcut.text, Text.linesKeepingEnds_flatten_append hlines,
    Text.linesKeepingEnds_append (hline _ List.mem_cons_self)]

theorem first_separator_unique {lines lines' rest rest' : List (List Char)} {l l' : List Char}
    (h : lines ++ l :: rest = lines' ++ l' :: rest') (hlines : ∀ k ∈ lines, ¬ IsSeparator k)
    (hlines' : ∀ k ∈ lines', ¬ IsSeparator k) (hl : IsSeparator l) (hl' : IsSeparator l') :
    lines = lines' ∧ l = l' ∧ rest = rest' := by
  induction lines generalizing lines' with
  | nil =>
    cases lines' with
    | nil => exact ⟨rfl, List.cons.inj h⟩
    | cons k lines' =>
      obtain ⟨rfl, -⟩ := List.cons.inj h
      exact absurd hl (hlines' _ List.mem_cons_self)
  | cons k lines ih =>
    cases lines' with
    | nil =>
      obtain ⟨rfl, -⟩ := List.cons.inj h
      exact absurd hl' (hlines _ List.mem_cons_self)
    | cons k' lines' =>
      obtain ⟨rfl, htail⟩ := List.cons.inj h
      obtain ⟨rfl, hrest⟩ := ih htail (List.forall_mem_cons.mp hlines).2
        (List.forall_mem_cons.mp hlines').2
      exact ⟨rfl, hrest⟩

/-- There is one place only where a text can be cut. -/
theorem Cut.unique {content body body' separator separator' : List Char}
    {header header' : List (List Char)} (hcut : Cut content header separator body)
    (hcut' : Cut content header' separator' body') :
    header = header' ∧ separator = separator' ∧ body = body' := by
  obtain ⟨rfl, rfl, hlines⟩ := first_separator_unique (hcut.lines.symm.trans hcut'.lines)
    hcut.first hcut'.first hcut.separates hcut'.separates
  refine ⟨rfl, rfl, ?_⟩
  rw [← Text.linesKeepingEnds_flatten body, hlines, Text.linesKeepingEnds_flatten]

/-- Where a text can be cut and the lines before the cut are well formed, the header is read. -/
theorem Cut.exists_split {content body separator : List Char} {header : List (List Char)}
    (hcut : Cut content header separator body) (hheader : ∀ l ∈ header, IsHeaderLine l)
    (hsound : SoundPragmas header) : ∃ h, split content = .ok (h, body) ∧ h.Of header := by
  obtain ⟨h, hsplit, hof⟩ := exists_splitFrom content hcut.separates (Text.linesKeepingEnds body)
    (fun l hl => ⟨hheader l hl, hcut.first l hl⟩) 1 .start (by simpa using hsound)
  refine ⟨h, ?_, hof⟩
  rw [split, hcut.lines, hsplit, Text.linesKeepingEnds_flatten]

end Conformance.Annotated
