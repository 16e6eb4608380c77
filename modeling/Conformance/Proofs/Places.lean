import Conformance.Proofs.Annotated.Breach
import Conformance.Proofs.Annotated.Scenarios
import Conformance.Proofs.Discovery.Inputs
import Conformance.Proofs.Manifest.Entries

/-!
# Places that faults point at

A fault that points into a text names this text and a range of it. In annotated files the range is
that of a line or an end of the text, and in a manifest that is read it is that of a quoted word;
all of these are slices of the text. A manifest that cannot be read is pointed at by the line and
the column that its parser reports, and a column that does not count bytes may lead into a character
(`places_valid`).
-/
namespace Conformance

open Text (Span)

/-! ## Annotated files -/

namespace Annotated

variable {files : FileTree} {name : String} {origin : Path} {content : String}

/-- The scenarios of a header are found on lines of its text. -/
theorem spans_of_splitFrom {content : List Char} {n : Nat} {h h' : Header}
    {lines : List (List Char)} {body : List Char}
    (hspans : ∀ p ∈ h.scenarios, ∃ m, p.span = .ofLine content m)
    (hsplit : splitFrom content n h lines = .ok (h', body)) :
    ∀ p ∈ h'.scenarios, ∃ m, p.span = .ofLine content m := by
  fun_induction splitFrom content n h lines with
  | case1 => cases hsplit
  | case2 n h line lines hblank ih => exact ih hspans hsplit
  | case3 n h line lines hseparator =>
    obtain ⟨rfl, -⟩ := Prod.mk.inj (Except.ok.inj hsplit)
    exact hspans
  | case4 => cases hsplit
  | case5 n h line lines text hcomment hprose ih => exact ih hspans hsplit
  | case6 => cases hsplit
  | case7 n h line lines text hcomment keyword args hpragma h₁ hadd ih =>
    refine ih ?_ hsplit
    obtain ⟨ps, hps, hline⟩ := scenarios_of_add hadd
    rw [hps]
    exact List.forall_mem_append.mpr ⟨hspans, fun p hp => ⟨n, hline p hp⟩⟩

/-- Whatever is wrong with an annotated file, a slice of it is pointed at. -/
theorem parse_place {fault : Fault} (h : parse files name origin content = .error fault) :
    ∃ span, fault.place = some { source := name, span } ∧
      (span.slice? content.toList).isSome := by
  have hline (n : Nat) : ((Span.ofLine content.toList n).slice? content.toList).isSome :=
    Option.isSome_of_eq_some (Span.slice?_ofLine content.toList n)
  rw [parse] at h
  dsimp only at h
  split at h
  · rename_i fault span hsplit
    rw [← Except.error.inj h]
    refine ⟨span, rfl, ?_⟩
    obtain ⟨before, line, after, -, -, -, hcovers⟩ | ⟨-, -, rfl⟩ := split_eq_error.mp hsplit
    · obtain ⟨part, -, -, hslice, -⟩ := hcovers.slice
      exact Option.isSome_of_eq_some hslice
    · exact Option.isSome_of_eq_some (Span.slice?_end content.toList)
  · rename_i header body hsplit
    split at h
    · rw [← Except.error.inj h]
      exact ⟨_, rfl, Option.isSome_of_eq_some (Span.slice?_end content.toList)⟩
    · split at h
      · obtain ⟨p, hp, cause, rfl⟩ := expand_eq_error h
        obtain ⟨n, hn⟩ := spans_of_splitFrom (h := {}) (List.forall_mem_nil _) hsplit p hp
        exact ⟨p.span, rfl, hn ▸ hline n⟩
      · rw [← Except.error.inj h]
        exact ⟨_, rfl, Span.isSome_slice?_empty.mpr ⟨[], _, rfl, rfl⟩⟩

end Annotated

namespace Discovery

variable {files : FileTree}

theorem loadFile_place {path : Path} {fault : Fault} {place : Place}
    (h : loadFile files path = .error fault) (hplace : fault.place = some place) :
    ∃ content, place.source = path.text ∧ files.readText path = .ok content ∧
      (place.span.slice? content.toList).isSome := by
  rw [loadFile] at h
  cases hread : files.readText path with
  | error e =>
    rw [hread] at h
    rw [← Except.error.inj h] at hplace
    cases hplace
  | ok content =>
    rw [hread] at h
    obtain ⟨span, hspan, hslice⟩ := Annotated.parse_place h
    obtain rfl := Option.some.inj (hspan.symm.trans hplace)
    exact ⟨content, rfl, rfl, hslice⟩

/-- A fault of a selected path that points into a text points at a slice of a file that was read. -/
theorem load_place {path : Path} {fault : Fault} {place : Place}
    (h : load files path = .error fault) (hplace : fault.place = some place) :
    ∃ p content, place.source = p.text ∧ files.readText p = .ok content ∧
      (place.span.slice? content.toList).isSome := by
  rw [load] at h
  split at h
  · exact ⟨path, loadFile_place h hplace⟩
  · split at h
    · rw [loadFolder, testFiles] at h
      split at h
      · rename_i found hwalk
        split at hwalk
        · cases hwalk
        · rw [← Except.error.inj h, ← Except.error.inj hwalk] at hplace
          cases hplace
      · obtain ⟨p, -, hp⟩ := exists_of_loadFiles_error h
        exact ⟨p, loadFile_place hp hplace⟩
    · rw [← Except.error.inj h] at hplace
      cases hplace

end Discovery

/-! ## Manifests -/

namespace Manifest.Source

variable {s : Source} {files : FileTree}

/-- Whatever fails here points at a word that may be quoted in the manifest. -/
def Quotes {α : Type} (s : Source) (x : Except Fault α) : Prop :=
  ∀ fault, x = .error fault → ∃ cause word, fault = s.located cause word

namespace Quotes

variable {α β : Type}

theorem ok (a : α) : s.Quotes (.ok a) :=
  nofun

theorem located (cause : DefinitionFault) (word : String) :
    s.Quotes (.error (s.located cause word) : Except Fault α) := by
  intro fault h
  exact ⟨cause, word, (Except.error.inj h).symm⟩

theorem bind {x : Except Fault α} {f : α → Except Fault β} (hx : s.Quotes x)
    (hf : ∀ a, s.Quotes (f a)) : s.Quotes (x >>= f) := by
  intro fault h
  rcases bind_eq_error.mp h with h | ⟨a, -, h⟩
  · exact hx fault h
  · exact hf a fault h

theorem map {x : Except Fault α} (hx : s.Quotes x) (f : α → β) : s.Quotes (x.map f) :=
  fun fault h => hx fault (map_eq_error.mp h)

theorem mapM {f : α → Except Fault β} (hf : ∀ a, s.Quotes (f a)) (xs : List α) :
    s.Quotes (xs.mapM f) := by
  intro fault h
  obtain ⟨x, -, hx⟩ := exists_of_mapM_error h
  exact hf x fault hx

end Quotes

theorem quotes_codes (field test : String) (given : Option (List Int)) :
    s.Quotes (s.codes field test given) := by
  cases given with
  | none => exact .ok _
  | some cs =>
    rw [codes]
    split
    · exact .ok _
    · exact .located _ _

theorem quotes_features (test : String) (names : Option (List String)) :
    s.Quotes (s.features test names) := by
  rw [features]
  split
  · exact .ok _
  · exact .located _ _

theorem quotes_test (e : TestEntry) : s.Quotes (s.test files e) := by
  have hprogram : s.Quotes (s.program files e) := by
    rw [program_eq]
    split
    · exact .ok _
    · exact .located _ _
  refine hprogram.bind fun _ => (quotes_codes _ _ _).bind fun _ => (quotes_codes _ _ _).bind
    fun _ => (quotes_features _ _).bind fun _ => (quotes_features _ _).bind fun _ => ?_
  dsimp only
  split
  · exact .ok _
  · exact .located _ _

theorem quotes_tests (seen : List String) (es : List TestEntry) :
    s.Quotes (s.tests files seen es) := by
  induction es generalizing seen with
  | nil => exact .ok _
  | cons e es ih =>
    rw [tests_cons]
    split
    · exact .located _ _
    · cases htest : s.test files e with
      | error fault =>
        intro fault' h
        rw [← Except.error.inj h]
        exact quotes_test e fault htest
      | ok case => exact (ih _).map _

theorem quotes_positions (names : List String) (cause : String → DefinitionFault)
    (ns : List String) : s.Quotes (positions names (fun n => s.located (cause n) n) ns) := by
  induction ns with
  | nil => exact .ok _
  | cons n ns ih =>
    rw [positions]
    split
    · exact .located _ _
    · exact ih.map _

theorem quotes_group (d : Document) (e : GroupEntry) : s.Quotes (s.group d e) :=
  (quotes_positions _ _ _).bind fun _ => (quotes_positions _ _ _).bind fun _ => .ok _

/-- A document that does not become a corpus is pointed at by a word of it. -/
theorem quotes_build (d : Document) : s.Quotes (s.build files d) := by
  refine (quotes_tests _ _).bind fun cases => ?_
  split
  · exact .located _ _
  · refine (Quotes.mapM (quotes_group d) _).bind fun groups => ?_
    dsimp only
    split
    · rename_i fault hfault
      obtain ⟨root, -, hroot⟩ := List.exists_of_findSome?_eq_some hfault
      obtain ⟨v, -, rfl⟩ := Option.map_eq_some_iff.mp hroot
      cases v <;> exact .located _ _
    · exact .ok _

/-- Where a fault of a JSON text is reported, line and column counted from 1. -/
def jsonPosition? : Except Json.Fault Datum → Option (Nat × Nat)
  | .ok _ => none
  | .error f => f.position.map fun p => (p.line, p.column)

/-- Where a fault of a YAML text is reported, line and column counted from 1. -/
def yamlPosition? : Except Yaml.Fault Datum → Option (Nat × Nat)
  | .ok _ => none
  | .error f => f.mark?.map fun m => (m.line + 1, m.column + 1)

/-- Where the parser of a notation reports a fault of the manifest. -/
def reported? (s : Source) : Format → Option (Nat × Nat)
  | .json => jsonPosition? (Json.parse Document.shape s.content)
  | .yaml => yamlPosition? (Yaml.parse Document.shape s.content)

theorem document_json (s : Source) :
    s.document .json =
      match Json.parse Document.shape s.content with
      | .ok d => .ok (.ofDatum d)
      | .error f => .error (s.faultAt
          (f.position.map fun p => .atLineColumn s.content.toList p.line p.column)
          (.manifest f.text)) := by
  exact rfl

theorem document_yaml (s : Source) :
    s.document .yaml =
      match Yaml.parse Document.shape s.content with
      | .ok d => .ok (.ofDatum d)
      | .error f => .error (s.faultAt
          (f.mark?.map fun m => .atLineColumn s.content.toList (m.line + 1) (m.column + 1))
          (.manifest f.text)) := by
  exact rfl

/-- The place of what went wrong, if anything did. -/
def place? {α : Type} : Except Fault α → Option Place
  | .ok _ => none
  | .error fault => fault.place

/-- A manifest that cannot be read is pointed at where its parser reports the fault. -/
theorem document_place (s : Source) (format : Format) :
    place? (s.document format) = (s.reported? format).map fun position =>
      { source := s.name, span := .atLineColumn s.content.toList position.1 position.2 } := by
  cases format with
  | json =>
    rw [document_json, reported?]
    cases Json.parse Document.shape s.content with
    | ok d => rfl
    | error f => simp [place?, faultAt, jsonPosition?, Function.comp_def]
  | yaml =>
    rw [document_yaml, reported?]
    cases Yaml.parse Document.shape s.content with
    | ok d => rfl
    | error f => simp [place?, faultAt, yamlPosition?, Function.comp_def]

theorem reported?_of_document {format : Format} {d : Document} (h : s.document format = .ok d) :
    s.reported? format = none := by
  have hplace := document_place s format
  rw [h] at hplace
  exact Option.map_eq_none_iff.mp hplace.symm

/-- What a parser reports becomes a fault with a place. -/
theorem exists_load_error (files : FileTree) {format : Format} {line column : Nat}
    (h : s.reported? format = some (line, column)) :
    ∃ fault, s.load files format = .error fault ∧ fault.place =
      some { source := s.name, span := .atLineColumn s.content.toList line column } := by
  have hplace := document_place s format
  cases hdocument : s.document format with
  | ok d => cases (reported?_of_document hdocument).symm.trans h
  | error fault =>
    rw [hdocument, h] at hplace
    exact ⟨fault, bind_eq_error.mpr (.inl hdocument), hplace⟩

theorem located_place {cause : DefinitionFault} {word : String} {place : Place}
    (h : (s.located cause word).place = some place) :
    place.source = s.name ∧ (place.span.slice? s.content.toList).isSome := by
  obtain ⟨span, hspan, rfl⟩ := Option.map_eq_some_iff.mp h
  exact ⟨rfl, Option.isSome_of_eq_some (Span.slice?_ofQuoted hspan)⟩

/-- The parser of a notation reports a column that leads into a character. -/
def SplitsReported (s : Source) (format : Format) : Prop :=
  ∃ line column, s.reported? format = some (line, column) ∧
    Text.SplitsCharacter (Span.lineText s.content.toList (max line 1)) (column - 1)

/-- Only in a character of several bytes can a column lead. -/
theorem SplitsReported.exists_wide {format : Format} (h : s.SplitsReported format) :
    ∃ c ∈ s.content.toList, 1 < c.utf8Size := by
  obtain ⟨line, column, -, front, c, rest, hline, hfront, hback⟩ := h
  obtain ⟨before, after, hcontent, -, -⟩ :=
    Span.slice?_eq_some.mp (Span.slice?_ofLine s.content.toList (max line 1))
  refine ⟨c, ?_, by omega⟩
  rw [hcontent, hline]
  simp

/-- A place in a manifest is in its text, and a slice of it unless a column leads into a
character. -/
theorem load_place {format : Format} {fault : Fault} {place : Place}
    (h : s.load files format = .error fault) (hplace : fault.place = some place) :
    place.source = s.name ∧ place.span.start ≤ place.span.stop ∧
      place.span.stop ≤ Text.byteLength s.content.toList ∧
      ((place.span.slice? s.content.toList).isSome ↔ ¬s.SplitsReported format) := by
  rw [load] at h
  rcases bind_eq_error.mp h with hdocument | ⟨d, hdocument, hbuild⟩
  · have hposition := document_place s format
    rw [hdocument, place?, hplace] at hposition
    obtain ⟨⟨line, column⟩, hreported, rfl⟩ := Option.map_eq_some_iff.mp hposition.symm
    obtain ⟨hempty, hle⟩ := Span.atLineColumn_le s.content.toList line column
    refine ⟨rfl, Nat.le_of_eq hempty, hle, ?_⟩
    rw [Span.isSome_slice?_atLineColumn]
    refine not_congr ⟨fun hsplits => ⟨line, column, hreported, hsplits⟩, ?_⟩
    rintro ⟨line', column', hreported', hsplits⟩
    obtain ⟨rfl, rfl⟩ := Prod.mk.inj (Option.some.inj (hreported.symm.trans hreported'))
    exact hsplits
  · obtain ⟨cause, word, rfl⟩ := quotes_build d fault hbuild
    obtain ⟨hsource, hslice⟩ := located_place hplace
    obtain ⟨hle, hstop, -, -⟩ := Span.isSome_slice?.mp hslice
    refine ⟨hsource, hle, hstop, iff_of_true hslice ?_⟩
    rintro ⟨line, column, hreported, -⟩
    cases (reported?_of_document hdocument).symm.trans hreported

end Manifest.Source

/-- A fault that is found in annotated files points at a slice of one that was read. One that is
found in a manifest points at a range of it, which is a slice exactly if it does not come from a
column that leads into a character, as it may where a character has several bytes. -/
theorem places_valid (files : FileTree) :
    (∀ name origin content fault,
      Annotated.parse files name origin content = .error fault →
        ∃ span, fault.place = some { source := name, span } ∧
          (span.slice? content.toList).isSome) ∧
    (∀ path fault place, Discovery.load files path = .error fault → fault.place = some place →
      ∃ p content, place.source = p.text ∧ files.readText p = .ok content ∧
        (place.span.slice? content.toList).isSome) ∧
    ∀ (s : Manifest.Source) format fault place, s.load files format = .error fault →
      fault.place = some place →
        place.source = s.name ∧ place.span.start ≤ place.span.stop ∧
          place.span.stop ≤ Text.byteLength s.content.toList ∧
          ((place.span.slice? s.content.toList).isSome ↔ ¬s.SplitsReported format) ∧
          (s.SplitsReported format → ∃ c ∈ s.content.toList, 1 < c.utf8Size) := by
  refine ⟨fun _ _ _ _ => Annotated.parse_place, fun _ _ _ => Discovery.load_place, ?_⟩
  intro s format fault place h hplace
  obtain ⟨hsource, hle, hstop, hslice⟩ := Manifest.Source.load_place h hplace
  exact ⟨hsource, hle, hstop, hslice, fun hsplits => hsplits.exists_wide⟩

/-- A manifest of a character that starts nothing. -/
def bareSign : Manifest.Source where
  name := "tests.yaml"
  content := "@"
  folder := ⟨""⟩

/-- Broken texts of all three kinds. -/
theorem broken_texts_pointed_at :
    (∃ fault, Annotated.parse Annotated.inputTree "t" ⟨"t"⟩ "é" = .error fault ∧
      ∃ span, fault.place = some { source := "t", span } ∧
        (span.slice? "é".toList).isSome) ∧
    (∃ fault place, Discovery.load Annotated.inputTree ⟨"x"⟩ = .error fault ∧
      fault.place = some place ∧ ∃ p content, place.source = p.text ∧
        Annotated.inputTree.readText p = .ok content ∧
        (place.span.slice? content.toList).isSome) ∧
    ∃ fault place, bareSign.load Annotated.inputTree .yaml = .error fault ∧
      fault.place = some place ∧ (place.span.slice? bareSign.content.toList).isSome := by
  obtain ⟨hannotated, hdiscovered, hmanifest⟩ := places_valid Annotated.inputTree
  refine ⟨?_, ?_, ?_⟩
  · have hparse : Annotated.parse Annotated.inputTree "t" ⟨"t"⟩ "é" =
        .error (Annotated.faultAt "t" ⟨0, 2⟩ (.header .notComment)) :=
      Annotated.parse_eq_header.mpr rfl
    exact ⟨_, hparse, hannotated _ _ _ _ hparse⟩
  · have hfile : Annotated.inputTree.isFile ⟨"x"⟩ = true := by
      rw [FileTree.isFile, FileTree.node?_of_find Annotated.find_x]
      rfl
    have hread : Annotated.inputTree.readText ⟨"x"⟩ = .ok "1" := by
      have hdecode : Text.decode? [0x31] = some "1" := by decide
      rw [FileTree.readText, FileTree.read, Annotated.find_x]
      simp only [Node.plain, hdecode]
    have hload : Discovery.load Annotated.inputTree ⟨"x"⟩ =
        .error (Annotated.faultAt "x" ⟨0, 1⟩ (.header .notComment)) := by
      rw [Discovery.load, if_pos hfile, Discovery.loadFile, hread]
      exact Annotated.parse_eq_header.mpr rfl
    exact ⟨_, _, hload, rfl, hdiscovered _ _ _ hload rfl⟩
  · have hreported : bareSign.reported? .yaml = some (1, 1) := by decide +kernel
    obtain ⟨fault, hload, hplace⟩ :=
      Manifest.Source.exists_load_error Annotated.inputTree hreported
    obtain ⟨-, -, -, hslice, -⟩ := hmanifest _ _ _ _ hload hplace
    refine ⟨fault, _, hload, hplace, hslice.mpr ?_⟩
    rintro ⟨line, column, hposition, front, c, rest, -, hfront, -⟩
    obtain ⟨-, rfl⟩ := Prod.mk.inj (Option.some.inj (hreported.symm.trans hposition))
    exact Nat.not_lt_zero _ hfront

/-- A manifest of which the sixth character, but not the sixth byte, starts nothing. -/
def accentedKey : Manifest.Source where
  name := "tests.yaml"
  content := "ééé: @"
  folder := ⟨""⟩

/-- The column counts characters, and is taken for one that counts bytes. -/
theorem accented_key_splits :
    ∃ fault, accentedKey.load Annotated.inputTree .yaml = .error fault ∧
      fault.place = some { source := "tests.yaml", span := ⟨5, 5⟩ } ∧
      Span.slice? ⟨5, 5⟩ accentedKey.content.toList = none := by
  have hreported : accentedKey.reported? .yaml = some (1, 6) := by decide +kernel
  obtain ⟨fault, hload, hplace⟩ :=
    Manifest.Source.exists_load_error Annotated.inputTree hreported
  exact ⟨fault, hload, hplace, by decide⟩

end Conformance
