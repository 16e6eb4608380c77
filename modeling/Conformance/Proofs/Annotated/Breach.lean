import Conformance.Proofs.Annotated.Cases
import Conformance.Proofs.Text.Span
import Mathlib.Data.List.Induction

/-!
# Where a header breaks its rules

The rules of a header are told line by line: what a line does wrong, given the lines before it
(`Breach`). Lines that pass stay passing with one more line exactly if this one does nothing wrong
and is no separator (`passes_append_singleton`), so a header that is refused has a first line that
breaks a rule. This is the line that is reported (`first_breach_reported`): its range starts behind
the lines before it and stops before its own end.
-/
namespace Conformance.Annotated

open Text (Span)

/-! ## The rules -/

/-- What is wrong with words that have to be exit codes: the first one that is none, or that there
are no words. -/
inductive CodesBreach (keyword : String) : List String → HeaderFault → Prop
  | bad {codes rest : List String} {word : String} :
      (∀ a ∈ codes, ∃ n, Decimal.WritesCode a.toList n) →
      (∀ n, ¬Decimal.WritesCode word.toList n) →
      CodesBreach keyword (codes ++ word :: rest) (.badCode word keyword)
  | none : CodesBreach keyword [] (.noCode keyword)

/-- What is wrong with words that have to name extensions: the first one that names none. -/
inductive FeaturesBreach : List String → HeaderFault → Prop
  | unknown {known rest : List String} {name : String} :
      (∀ n ∈ known, ∃ f : Feature, f.name = n) → (¬∃ f : Feature, f.name = name) →
      FeaturesBreach (known ++ name :: rest) (.unknownFeature name)

/-- A keyword that may stand on one line only stands on two, or what is given is wrong. -/
inductive OnceBreach (keyword : String) (before : List (List Char)) (given : HeaderFault → Prop) :
    HeaderFault → Prop
  | repeated : argsOf keyword before ≠ [] →
      OnceBreach keyword before given (.repeatedPragma keyword)
  | given {fault : HeaderFault} : argsOf keyword before = [] → given fault →
      OnceBreach keyword before given fault

/-- What is wrong with a pragma behind these lines. -/
inductive PragmaBreach (before : List (List Char)) :
    (keyword : String) → (args : List String) → HeaderFault → Prop
  | codes {keyword : String} {args : List String} {fault : HeaderFault} :
      keyword ∈ ["compiler", "interpret"] →
      OnceBreach keyword before (CodesBreach keyword args) fault →
      PragmaBreach before keyword args fault
  | features {keyword : String} {args : List String} {fault : HeaderFault} :
      keyword ∈ ["extensions+", "extensions-"] →
      OnceBreach keyword before (FeaturesBreach args) fault → PragmaBreach before keyword args fault
  | noInputFile : PragmaBreach before "scenario" [] .noInputFile
  | scenarioCodes {file : String} {codes : List String} {fault : HeaderFault} : codes ≠ [] →
      CodesBreach "scenario" codes fault → PragmaBreach before "scenario" (file :: codes) fault

/-- What is wrong with a line behind these lines. -/
inductive Breach (before : List (List Char)) (line : List Char) : HeaderFault → Prop
  | notComment : ¬IsHeaderLine line → Breach before line .notComment
  | pragma {keyword : String} {args : List String} {fault : HeaderFault} :
      pragmaWords line = keyword :: args → PragmaBreach before keyword args fault →
      Breach before line fault

/-- Lines without a separator among them, which break no rule. -/
structure Passes (lines : List (List Char)) : Prop extends SoundPragmas lines where
  headerLines : ∀ l ∈ lines, IsHeaderLine l ∧ ¬IsSeparator l

/-! ## What reading makes of a breach -/

section
variable {keyword : String} {args : List String} {fault : HeaderFault}

/-- Reading codes stops at the first word that is none. -/
theorem readCodes_bad {codes : List String} {word : String}
    (hcodes : ∀ a ∈ codes, ∃ n, Decimal.WritesCode a.toList n)
    (hword : ∀ n, ¬Decimal.WritesCode word.toList n) (rest : List String) :
    readCodes keyword (codes ++ word :: rest) = .error (.badCode word keyword) := by
  induction codes with
  | nil =>
    have hnone : Decimal.code? word.toList = none :=
      Option.eq_none_iff_forall_not_mem.mpr fun n hn => hword n (Decimal.code?_eq_some.mp hn)
    rw [List.nil_append, readCodes, hnone]
  | cons code codes ih =>
    obtain ⟨⟨n, hn⟩, hcodes⟩ := List.forall_mem_cons.mp hcodes
    rw [List.cons_append, readCodes, Decimal.code?_eq_some.mpr hn]
    exact map_eq_error.mpr (ih hcodes)

theorem codesBreach_of_readCodes (h : readCodes keyword args = .error fault) :
    CodesBreach keyword args fault := by
  induction args with
  | nil => cases h
  | cons arg args ih =>
    rw [readCodes] at h
    cases hcode : Decimal.code? arg.toList with
    | none =>
      rw [hcode] at h
      rw [← Except.error.inj h]
      refine @CodesBreach.bad keyword [] args arg (List.forall_mem_nil _) fun n hn => ?_
      cases hcode.symm.trans (Decimal.code?_eq_some.mpr hn)
    | some n =>
      rw [hcode] at h
      have hargs := map_eq_error.mp h
      cases ih hargs with
      | bad hcodes hword =>
        exact .bad (List.forall_mem_cons.mpr ⟨⟨n, Decimal.code?_eq_some.mp hcode⟩, hcodes⟩) hword
      | none => cases hargs

theorem codes_eq_error : codes keyword args = .error fault ↔ CodesBreach keyword args fault := by
  constructor
  · intro h
    rw [codes] at h
    cases hread : readCodes keyword args with
    | error found =>
      rw [hread] at h
      exact codesBreach_of_readCodes (hread.trans (congrArg _ (Except.error.inj h)))
    | ok cs =>
      rw [hread] at h
      dsimp only at h
      cases hset : CodeSet.ofList? cs with
      | none =>
        obtain rfl := CodeSet.ofList?_eq_none.mp hset
        obtain rfl := List.forall₂_nil_right_iff.mp ((readCodes_eq_ok keyword).mp hread)
        rw [← Except.error.inj h]
        exact .none
      | some set => rw [hset] at h; cases h
  · intro h
    cases h with
    | bad hcodes hword => rw [codes, readCodes_bad hcodes hword]
    | none => rfl

/-- The first name that is not registered. -/
theorem find?_unknown {name : String} :
    args.find? (fun n => (Feature.ofName? n).isNone) = some name ↔
      FeaturesBreach args (.unknownFeature name) := by
  have hregistered (n : String) :
      (!(Feature.ofName? n).isNone) = true ↔ ∃ f : Feature, f.name = n := by
    rw [Bool.not_eq_true', ← Bool.not_eq_true, Feature.isNone_ofName?, not_not]
  simp only [List.find?_eq_some_iff_append, Feature.isNone_ofName?, hregistered]
  constructor
  · rintro ⟨hname, known, rest, rfl, hknown⟩
    exact .unknown hknown hname
  · intro h
    cases h with
    | unknown hknown hname => exact ⟨hname, _, _, rfl, hknown⟩

theorem features_eq_error : features args = .error fault ↔ FeaturesBreach args fault := by
  constructor
  · intro h
    rw [features, parseFeatures] at h
    cases hunknown : args.find? fun n => (Feature.ofName? n).isNone with
    | some name =>
      rw [hunknown] at h
      rw [← Except.error.inj h]
      exact find?_unknown.mp hunknown
    | none => rw [hunknown] at h; cases h
  · intro h
    cases h with
    | unknown hknown hname =>
      rw [features, parseFeatures, find?_unknown.mpr (.unknown hknown hname)]

/-- A slot is not filled if it is full, or if what would fill it is wrong. -/
theorem fill_eq_error {α : Type} {reads : List String → α → Prop} {before : List (List Char)}
    {slot : Option α} (h : List.Forall₂ reads (argsOf keyword before) slot.toList)
    {value : Except HeaderFault α} {given : HeaderFault → Prop}
    (hvalue : value = .error fault ↔ given fault) :
    fill keyword slot value = .error fault ↔ OnceBreach keyword before given fault := by
  cases slot with
  | none =>
    have hnone : argsOf keyword before = [] := List.forall₂_nil_right_iff.mp h
    rw [fill, map_eq_error, hvalue]
    refine ⟨.given hnone, fun hbreach => ?_⟩
    cases hbreach with
    | repeated hsome => exact absurd hnone hsome
    | given _ hgiven => exact hgiven
  | some v =>
    have hsome : argsOf keyword before ≠ [] := by
      intro hnone
      rw [hnone] at h
      cases h
    rw [fill]
    constructor
    · intro hfault
      rw [← Except.error.inj hfault]
      exact .repeated hsome
    · intro hbreach
      cases hbreach with
      | repeated => rfl
      | given hnone => exact absurd hnone hsome

theorem pragmaBreach_codes {before : List (List Char)} (hk : keyword ∈ ["compiler", "interpret"]) :
    PragmaBreach before keyword args fault ↔
      OnceBreach keyword before (CodesBreach keyword args) fault := by
  refine ⟨fun h => ?_, .codes hk⟩
  cases h with
  | codes _ h => exact h
  | features hk' =>
    simp only [List.mem_cons, List.not_mem_nil, or_false] at hk
    rcases hk with rfl | rfl <;> simp at hk'
  | noInputFile => simp at hk
  | scenarioCodes => simp at hk

theorem pragmaBreach_features {before : List (List Char)}
    (hk : keyword ∈ ["extensions+", "extensions-"]) :
    PragmaBreach before keyword args fault ↔
      OnceBreach keyword before (FeaturesBreach args) fault := by
  refine ⟨fun h => ?_, .features hk⟩
  cases h with
  | codes hk' =>
    simp only [List.mem_cons, List.not_mem_nil, or_false] at hk
    rcases hk with rfl | rfl <;> simp at hk'
  | features _ h => exact h
  | noInputFile => simp at hk
  | scenarioCodes => simp at hk

theorem pragmaBreach_scenario {before : List (List Char)} :
    PragmaBreach before "scenario" args fault ↔ args = [] ∧ fault = .noInputFile ∨
      ∃ file codes, args = file :: codes ∧ codes ≠ [] ∧ CodesBreach "scenario" codes fault := by
  constructor
  · intro h
    cases h with
    | codes hk => simp at hk
    | features hk => simp at hk
    | noInputFile => exact .inl ⟨rfl, rfl⟩
    | scenarioCodes hne hcodes => exact .inr ⟨_, _, rfl, hne, hcodes⟩
  · rintro (⟨rfl, rfl⟩ | ⟨file, codes, rfl, hne, hcodes⟩)
    · exact .noInputFile
    · exact .scenarioCodes hne hcodes

/-- A pragma is refused exactly if something is wrong with it. -/
theorem Header.Of.add_eq_error {h : Header} {before : List (List Char)} (hof : h.Of before)
    (span : Span) : h.add span keyword args = .error fault ↔
      PragmaBreach before keyword args fault := by
  unfold Header.add
  split
  · rw [map_eq_error, pragmaBreach_codes (by simp), fill_eq_error hof.compiler codes_eq_error]
  · rw [map_eq_error, pragmaBreach_codes (by simp), fill_eq_error hof.interpret codes_eq_error]
  · rw [map_eq_error, pragmaBreach_features (by simp), fill_eq_error hof.required features_eq_error]
  · rw [map_eq_error, pragmaBreach_features (by simp),
      fill_eq_error hof.forbidden features_eq_error]
  · rw [pragmaBreach_scenario]
    split
    · simp [eq_comm]
    · simp
    · rename_i file codes hcodes
      rw [map_eq_error, codes_eq_error]
      constructor
      · intro hbreach
        exact .inr ⟨file, codes, rfl, hcodes, hbreach⟩
      · rintro (⟨hnil, -⟩ | ⟨file', codes', hargs, -, hbreach⟩)
        · cases hnil
        · obtain ⟨-, rfl⟩ := List.cons.inj hargs
          exact hbreach
  · rename_i hcompiler hinterpret hrequired hforbidden hscenario
    refine ⟨nofun, fun hbreach => ?_⟩
    cases hbreach with
    | codes hk => simp_all
    | features hk => simp_all
    | noInputFile => exact absurd rfl hscenario
    | scenarioCodes => exact absurd rfl hscenario

end

/-! ## The first breach -/

theorem isHeaderLine_of_pragmaWords {line : List Char} (h : pragmaWords line ≠ []) :
    IsHeaderLine line ∧ ¬IsSeparator line := by
  unfold pragmaWords at h
  split at h
  · rename_i c text htrim
    refine ⟨.inr ⟨_, htrim⟩, fun hsep => ?_⟩
    cases htrim.symm.trans hsep
  · exact absurd rfl h

theorem splitFrom_breach {h : Header} {before : List (List Char)} (hof : h.Of before)
    {line : List Char} {fault : HeaderFault} (hbreach : Breach before line fault)
    (content : List Char) (n : Nat) (rest : List (List Char)) :
    splitFrom content n h (line :: rest) = .error (fault, .ofLine content n) := by
  cases hbreach with
  | notComment hline => rw [splitFrom, ofChars_other hline]
  | pragma hwords hpragma =>
    have hsome : pragmaWords line ≠ [] := by simp [hwords]
    obtain ⟨hline, hsep⟩ := isHeaderLine_of_pragmaWords hsome
    rw [splitFrom_cons hline hsep, hwords]
    dsimp only
    rw [(hof.add_eq_error _).mpr hpragma]

theorem Passes.nil : Passes [] :=
  { Header.Of.start.soundPragmas with headerLines := nofun }

theorem Passes.exists_splitFrom {lines : List (List Char)} (h : Passes lines)
    (content : List Char) (rest : List (List Char)) :
    ∃ header, splitFrom content 1 {} (lines ++ rest) =
      splitFrom content (1 + lines.length) header rest ∧ header.Of lines := by
  have hsound : SoundPragmas ([] ++ lines) := h.toSoundPragmas
  simpa using splitFrom_passes content h.headerLines 1 .start hsound rest

/-- Lines that pass go on to pass as long as no line breaks a rule and none is the separator. -/
theorem passes_append_singleton {before : List (List Char)} {line : List Char} :
    Passes (before ++ [line]) ↔
      Passes before ∧ ¬IsSeparator line ∧ ∀ fault, ¬Breach before line fault := by
  constructor
  · intro h
    obtain ⟨hlines, hlast⟩ := List.forall_mem_append.mp h.headerLines
    obtain ⟨hline, hsep⟩ := hlast line List.mem_cons_self
    have hbefore : Passes before := { h.toSoundPragmas.of_append with headerLines := hlines }
    refine ⟨hbefore, hsep, fun fault hbreach => ?_⟩
    cases hbreach with
    | notComment hnone => exact hnone hline
    | pragma hwords hpragma =>
      obtain ⟨header, -, hof⟩ := hbefore.exists_splitFrom [] []
      obtain ⟨header', hadd⟩ := hof.exists_add (.empty 0) hwords h.toSoundPragmas
      cases hadd.symm.trans ((hof.add_eq_error _).mpr hpragma)
  · rintro ⟨hbefore, hsep, hnone⟩
    have hline : IsHeaderLine line := not_not.mp fun hline => hnone _ (.notComment hline)
    obtain ⟨header, -, hof⟩ := hbefore.exists_splitFrom [] []
    have hsound : SoundPragmas (before ++ [line]) := by
      cases hwords : pragmaWords line with
      | nil => exact (hof.prose hwords).soundPragmas
      | cons keyword args =>
        cases hadd : header.add (.empty 0) keyword args with
        | error fault =>
          exact absurd (.pragma hwords ((hof.add_eq_error _).mp hadd)) (hnone fault)
        | ok header' => exact (hof.add hwords hadd).soundPragmas
    exact { hsound with
      headerLines := List.forall_mem_append.mpr
        ⟨hbefore.headerLines, List.forall_mem_singleton.mpr ⟨hline, hsep⟩⟩ }

/-- Lines that do not pass have a first one that is the separator or breaks a rule. -/
theorem exists_first_failing {lines : List (List Char)} (h : ¬Passes lines) :
    ∃ before line after, lines = before ++ line :: after ∧ Passes before ∧
      (IsSeparator line ∨ ∃ fault, Breach before line fault) := by
  induction lines using List.reverseRecOn with
  | nil => exact absurd Passes.nil h
  | append_singleton lines line ih =>
    by_cases hlines : Passes lines
    · refine ⟨lines, line, [], rfl, hlines, ?_⟩
      by_contra hneither
      obtain ⟨hsep, hnone⟩ := not_or.mp hneither
      exact h (passes_append_singleton.mpr ⟨hlines, hsep, fun f hf => hnone ⟨f, hf⟩⟩)
    · obtain ⟨before, l, after, rfl, hbefore, hl⟩ := ih hlines
      exact ⟨before, l, after ++ [line], by simp, hbefore, hl⟩

/-! ## The range of a line -/

/-- The range covers a line behind whole lines: it starts behind these, and stops before the line
feeds and carriage returns at the end of the line. Nothing else of the line is left out. -/
structure Covers (span : Span) (content : List Char) (before : List (List Char))
    (line : List Char) : Prop where
  whole : ∀ l ∈ before, Text.WholeLine l
  start : span.start = (before.map Text.byteLength).sum
  slice : ∃ part ends, line = part ++ ends ∧ span.slice? content = some part ∧
    (∀ c ∈ ends, c = '\n' ∨ c = '\r') ∧ (∀ c ∈ part.getLast?, c ≠ '\n' ∧ c ≠ '\r') ∧
    '\n' ∉ part ∧ Text.trim part = Text.trim line

theorem covers_iff {span : Span} {content : List Char} {before after : List (List Char)}
    {line : List Char} (h : Text.linesKeepingEnds content = before ++ line :: after) :
    Covers span content before line ↔ span = .behind before line := by
  constructor
  · intro hcovers
    obtain ⟨part, ends, hline, hslice, hends, hlast, -, -⟩ := hcovers.slice
    obtain ⟨front, back, -, hstart, hstop⟩ := Span.slice?_eq_some.mp hslice
    have hpart : Text.dropEndWhile Span.isLineEnd line = part := by
      rw [hline, Text.dropEndWhile_append part fun c hc => Span.isLineEnd_eq_true.mpr (hends c hc)]
      refine Text.dropEndWhile_eq_self fun c hc => ?_
      rw [← Bool.not_eq_true, Span.isLineEnd_eq_true]
      exact not_or.mpr (hlast c hc)
    have hfront : Text.byteLength front = Text.byteLength before.flatten := by
      rw [← hstart, hcovers.start, Text.byteLength_flatten]
    cases span
    rw [Span.behind, hpart, Text.byteLength_append, ← hfront, ← Text.byteLength_append]
    exact congrArg₂ Span.mk hstart hstop
  · rintro rfl
    obtain ⟨ends, hline, hends⟩ := Text.exists_ends Span.isLineEnd line
    have hmem : line ∈ Text.linesKeepingEnds content := by
      rw [h]
      exact List.mem_append_right _ List.mem_cons_self
    refine ⟨Text.wholeLine_of_mem h (List.cons_ne_nil line after), Text.byteLength_flatten before,
      _, ends, hline, Span.slice?_behind h, fun c hc => Span.isLineEnd_eq_true.mp (hends c hc),
      fun c hc => ?_, Span.not_mem_dropEndWhile hmem, ?_⟩
    · rw [← not_or, ← Span.isLineEnd_eq_true, Bool.not_eq_true]
      exact Text.getLast?_dropEndWhile c hc
    · conv_rhs => rw [hline]
      exact (Text.trim_append _ fun c hc => Span.isBlank_of_isLineEnd (hends c hc)).symm

/-! ## What is reported -/

/-- A header is refused at its first line that breaks a rule, or at the end of the text if there is
none and no separator either. -/
theorem split_eq_error {content : List Char} {fault : HeaderFault} {span : Span} :
    split content = .error (fault, span) ↔
      (∃ before line after, Text.linesKeepingEnds content = before ++ line :: after ∧
        Passes before ∧ Breach before line fault ∧ Covers span content before line) ∨
      Passes (Text.linesKeepingEnds content) ∧ fault = .noSeparator ∧
        span = .empty (Text.byteLength content) := by
  have hbreach {before after : List (List Char)} {line : List Char} {fault : HeaderFault}
      (hlines : Text.linesKeepingEnds content = before ++ line :: after) (hbefore : Passes before)
      (hbreach : Breach before line fault) :
      split content = .error (fault, .behind before line) := by
    obtain ⟨header, hsplit, hof⟩ := hbefore.exists_splitFrom content (line :: after)
    rw [split, hlines, hsplit, splitFrom_breach hof hbreach, Span.ofLine_eq hlines]
  have hpasses (hpasses : Passes (Text.linesKeepingEnds content)) :
      split content = .error (.noSeparator, .empty (Text.byteLength content)) := by
    obtain ⟨header, hsplit, -⟩ := hpasses.exists_splitFrom content []
    rw [List.append_nil] at hsplit
    exact hsplit
  constructor
  · intro h
    by_cases hall : Passes (Text.linesKeepingEnds content)
    · obtain ⟨rfl, rfl⟩ := Prod.mk.inj (Except.error.inj (h.symm.trans (hpasses hall)))
      exact .inr ⟨hall, rfl, rfl⟩
    · obtain ⟨before, line, after, hlines, hbefore, hsep | ⟨found, hfound⟩⟩ :=
        exists_first_failing hall
      · obtain ⟨header, hsplit, -⟩ := hbefore.exists_splitFrom content (line :: after)
        rw [split, hlines, hsplit, splitFrom_separator hsep] at h
        cases h
      · obtain ⟨rfl, rfl⟩ :=
          Prod.mk.inj (Except.error.inj (h.symm.trans (hbreach hlines hbefore hfound)))
        exact .inl ⟨before, line, after, hlines, hbefore, hfound, (covers_iff hlines).mpr rfl⟩
  · rintro (⟨before, line, after, hlines, hbefore, hfound, hcovers⟩ | ⟨hall, rfl, rfl⟩)
    · rw [(covers_iff hlines).mp hcovers]
      exact hbreach hlines hbefore hfound
    · exact hpasses hall

/-- The faults of a file that are about its header are those of reading the header. -/
theorem parse_eq_header {files : FileTree} {name : String} {origin : Path} {content : String}
    {fault : HeaderFault} {span : Span} :
    parse files name origin content = .error (faultAt name span (.header fault)) ↔
      split content.toList = .error (fault, span) := by
  rw [parse]
  constructor
  · intro h
    dsimp only at h
    split at h
    · rename_i hsplit
      obtain ⟨hcause, hplace⟩ := Fault.mk.inj (Except.error.inj h)
      obtain rfl := Cause.header.inj hcause
      obtain rfl := congrArg Place.span (Option.some.inj hplace)
      exact hsplit
    · split at h
      · cases h
      · split at h
        · obtain ⟨p, -, cause, hfault⟩ := expand_eq_error h
          cases hfault
        · cases h
  · intro h
    rw [h]

/-- A header is refused at its first line that breaks a rule, with what is wrong with this line and
the range that covers it. If no line breaks a rule and none is the separator, it is refused at the
end of the text. This is also what is reported of the file. -/
theorem first_breach_reported (content : String) (fault : HeaderFault) (span : Span) :
    (split content.toList = .error (fault, span) ↔
      (∃ before line after, Text.linesKeepingEnds content.toList = before ++ line :: after ∧
        Passes before ∧ Breach before line fault ∧ Covers span content.toList before line) ∨
      Passes (Text.linesKeepingEnds content.toList) ∧ fault = .noSeparator ∧
        span = .empty (Text.byteLength content.toList)) ∧
    ∀ files name origin,
      parse files name origin content = .error (faultAt name span (.header fault)) ↔
        split content.toList = .error (fault, span) :=
  ⟨split_eq_error, fun _ _ _ => parse_eq_header⟩

example : split "//compiler 0\n// prose\r\n//compiler 1\r\n//\n".toList =
    .error (.repeatedPragma "compiler", ⟨23, 35⟩) := by
  decide

end Conformance.Annotated
