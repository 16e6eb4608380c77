import Conformance.Proofs.Files.Contents
import Conformance.Proofs.Pipeline.Course

/-!
# What a case makes of its tools

`Protocol` says what the exchanges of a case are and what its outcome says of them: which tools are
called, in which order and with what, that the records are those of the tools that ended, and that
the verdict and its reason, and the mode that ended the case early, can be read off the answers.
`run_protocol` says that every run of a case keeps to it, whatever the tools do.

A device keeps nothing of what is written to it. Where one stands at the path of the scratch file,
the interpreter is called although its file does not hold the intermediate code
(`device_keeps_no_code`).
-/
namespace Conformance.Pipeline

open FileTree (Admits Proper Way)

/-- The tool of a stage has ended, and this is what it left. -/
def Ended (xs : List Exchange) (stage : Stage) (c : Capture) : Prop :=
  ∃ x ∈ xs, x.call.stage = stage ∧ x.answer = .completed c

/-- A case whose compiler ended so goes on to the interpreter. -/
structure ToInterpret (settings : Settings) (case : TestCase) (c : Capture) : Prop where
  accepted : case.compilerCodes.contains c.exitCode = true
  zero : c.exitCode = 0
  mode : settings.mode ≠ .compileOnly

/-- A case whose interpreter ended so goes on to the reference. -/
structure ToCheck (settings : Settings) (case : TestCase) (c : Capture) : Prop where
  accepted : case.interpretCodes.contains c.exitCode = true
  zero : c.exitCode = 0
  mode : settings.mode = .full

/-- The scratch file holds this, unless a device stands in its place. -/
def ScratchHolds (settings : Settings) (files : FileTree) (code : Bytes) : Prop :=
  files.read settings.scratch = .ok code ∨
    ∃ name, files.node? settings.scratch = some (.device name)

/-- What the exchanges say of a failure for this reason. -/
def Explains (settings : Settings) (case : TestCase) (xs : List Exchange) : FailReason → Prop
  | .compilerCode actual expected => ∃ c, Ended xs .compile c ∧ actual = c.exitCode ∧
      expected = case.compilerCodes ∧ expected.contains actual = false
  | .interpretCode actual expected => ∃ c, Ended xs .interpret c ∧ actual = c.exitCode ∧
      expected = case.interpretCodes ∧ expected.contains actual = false
  | .exitCodes i r => ∃ c d, Ended xs .interpret c ∧ Ended xs .reference d ∧
      i = c.exitCode ∧ r = d.exitCode ∧ i ≠ r
  | .outputs => ∃ c d, Ended xs .interpret c ∧ Ended xs .reference d ∧
      c.exitCode = d.exitCode ∧ c.stdout ≠ d.stdout
  | .timeout stage => ∃ x ∈ xs, x.call.stage = stage ∧ x.answer = .timedOut
  | .launch stage message => ∃ x ∈ xs, x.call.stage = stage ∧
      ∃ f, x.answer = .fault f ∧ message = f.message
  | .unprepared message => ∃ x ∈ xs, x.call.stage = .compile ∧
      ∃ c e, x.answer = .completed c ∧ ToInterpret settings case c ∧
        x.left.write settings.scratch c.stdout = .error e ∧ message = scratchProblem settings e

/-- The stages whose streams are shown with a failure. -/
def shownWith : FailReason → List Stage
  | .compilerCode _ _ => [.compile]
  | .interpretCode _ _ => [.interpret]
  | .exitCodes _ _ | .outputs => [.interpret, .reference]
  | .timeout _ | .launch _ _ | .unprepared _ => []

@[simp] theorem ended_nil (stage : Stage) (c : Capture) : ¬ Ended [] stage c := by simp [Ended]

@[simp] theorem ended_cons (x : Exchange) (xs : List Exchange) (stage : Stage) (c : Capture) :
    Ended (x :: xs) stage c ↔
      (x.call.stage = stage ∧ x.answer = .completed c) ∨ Ended xs stage c := by
  simp [Ended]

theorem toInterpret_iff (settings : Settings) (case : TestCase) (c : Capture) :
    ToInterpret settings case c ↔ case.compilerCodes.contains c.exitCode = true ∧ c.exitCode = 0 ∧
      settings.mode ≠ .compileOnly :=
  ⟨fun h => ⟨h.accepted, h.zero, h.mode⟩, fun ⟨h, h', h''⟩ => ⟨h, h', h''⟩⟩

theorem judge_eq_pass (interpreted reference : Capture) :
    judge interpreted reference = .pass ↔
      interpreted.exitCode = reference.exitCode ∧ interpreted.stdout = reference.stdout := by
  unfold judge compareOutput
  split_ifs <;> simp_all

theorem judge_eq_fail {interpreted reference : Capture} {reason : FailReason}
    (h : judge interpreted reference = .fail reason) :
    (reason = .exitCodes interpreted.exitCode reference.exitCode ∧
        interpreted.exitCode ≠ reference.exitCode) ∨
      (reason = .outputs ∧ interpreted.exitCode = reference.exitCode ∧
        interpreted.stdout ≠ reference.stdout) := by
  unfold judge compareOutput at h
  split_ifs at h with hcode hout
  · exact .inl ⟨(Verdict.fail.inj h).symm, hcode⟩
  · exact .inr ⟨(Verdict.fail.inj h).symm, not_not.mp hcode, hout⟩

/-- Where no stage is called twice, a tool that has ended is the one recorded. -/
theorem find?_record_of_ended {xs : List Exchange} {stage : Stage} {c : Capture}
    (hd : (xs.map (·.call.stage)).Nodup) (h : Ended xs stage c) :
    (xs.filterMap Exchange.record?).find? (·.stage = stage) = some ⟨stage, c⟩ := by
  induction xs with
  | nil => simp at h
  | cons x xs ih =>
    obtain ⟨hx, hd⟩ := List.nodup_cons.mp hd
    rcases (ended_cons x xs stage c).mp h with ⟨hs, ha⟩ | h
    · have hr : x.record? = some ⟨stage, c⟩ := by rw [Exchange.record?, ha, hs]
      simp [hr]
    · have hne : x.call.stage ≠ stage := by
        obtain ⟨y, hy, hstage, -⟩ := h
        rintro he
        exact hx (List.mem_map.mpr ⟨y, hy, hstage.trans he.symm⟩)
      cases hr : x.record? with
      | none => rw [List.filterMap_cons, hr, ih hd h]
      | some r =>
        have hstage : r.stage = x.call.stage := by
          unfold Exchange.record? at hr
          split at hr
          · rw [← Option.some.inj hr]
          · cases hr
          · cases hr
        simp [hr, hstage, hne, ih hd h]

/-- A course that went on to the reference was neither of the short modes. -/
theorem mode_full {settings : Settings} (h : settings.mode ≠ .compileOnly)
    (h' : settings.mode ≠ .interpretOnly) : settings.mode = .full := by
  cases hm : settings.mode with
  | compileOnly => exact absurd hm h
  | interpretOnly => exact absurd hm h'
  | full => rfl

section
variable {settings : Settings} {case : TestCase} {deadline : Deadline} {xs : List Exchange}
  {p : Progress}

theorem Course.order (h : Course settings case deadline xs p) :
    xs.map (·.call.stage) <+: [.compile, .interpret, .reference] := by
  cases h with
  | interpreted _ _ _ _ hi =>
    cases hi with
    | checked _ _ _ hr => cases hr <;> simp
    | _ => simp
  | _ => simp

theorem Course.compiler (h : Course settings case deadline xs p) :
    ∀ x ∈ xs, x.call.stage = .compile →
      x.call.request = { args := [], stdin := some (Text.encode case.source) } := by
  cases h with
  | interpreted _ _ _ _ hi =>
    cases hi with
    | checked _ _ _ hr => cases hr <;> simp [compileRequest]
    | _ => simp [compileRequest]
  | _ => simp [compileRequest]

theorem Course.interpreter (h : Course settings case deadline xs p) :
    ∀ x ∈ xs, x.call.stage = .interpret →
      x.call.request = { args := [settings.scratch.text], stdin := case.input.map Text.encode } ∧
        ∃ c, Ended xs .compile c ∧ ToInterpret settings case c ∧
          ScratchHolds settings x.call.files c.stdout := by
  cases h with
  | @interpreted f c l t xs p hacc hzero hmode hw hi =>
    have hgo : ToInterpret settings case c := ⟨hacc, hzero, hmode⟩
    have hs : ScratchHolds settings t c.stdout := FileTree.read_of_write hw
    have hr : interpretRequest settings case =
        { args := [settings.scratch.text], stdin := case.input.map Text.encode } := rfl
    cases hi with
    | unanswered hf => cases hf <;> simp [hr, hgo, hs]
    | checked _ _ _ hcourse =>
      cases hcourse with
      | unanswered hf => cases hf <;> simp [hr, hgo, hs]
      | compared =>
        intro x hx hstage
        simp only [List.mem_cons, List.not_mem_nil, or_false] at hx
        rcases hx with rfl | rfl | rfl
        · cases hstage
        · exact ⟨hr, c, by simp, hgo, hs⟩
        · cases hstage
    | _ => simp [hr, hgo, hs]
  | unanswered hf => cases hf <;> simp
  | _ => simp

theorem Course.reference (h : Course settings case deadline xs p) :
    ∀ x ∈ xs, x.call.stage = .reference →
      x.call.request =
          { args := [case.origin.text, settings.supportFile.text]
            stdin := case.input.map Text.encode } ∧
        ∃ c, Ended xs .interpret c ∧ ToCheck settings case c := by
  cases h with
  | interpreted _ _ hmode _ hi =>
    cases hi with
    | unanswered hf => cases hf <;> simp
    | checked hacc' hzero' hmode' hcourse =>
      have hcheck : ToCheck settings case _ := ⟨hacc', hzero', mode_full hmode hmode'⟩
      have hr : referenceRequest settings case =
          { args := [case.origin.text, settings.supportFile.text]
            stdin := case.input.map Text.encode } := rfl
      cases hcourse with
      | unanswered hf => cases hf <;> simp [hr, hcheck]
      | compared => simp [hr, hcheck]
    | _ => simp
  | unanswered hf => cases hf <;> simp
  | _ => simp

theorem Course.stages (h : Course settings case deadline xs p) :
    p.stages = xs.filterMap Exchange.record? := by
  cases h with
  | unanswered hf => cases hf <;> simp [Exchange.record?]
  | interpreted hacc hzero hmode hw hi =>
    cases hi with
    | unanswered hf => cases hf <;> simp [Exchange.record?]
    | checked hacc' hzero' hmode' hr =>
      cases hr with
      | unanswered hf => cases hf <;> simp [Exchange.record?]
      | compared => simp [Exchange.record?]
    | _ => simp [Exchange.record?]
  | _ => simp [Exchange.record?]

theorem Course.passes (h : Course settings case deadline xs p) :
    p.verdict = .pass ↔
      (∀ x ∈ xs, ∃ c, x.answer = .completed c) ∧
      (∀ c, Ended xs .compile c → case.compilerCodes.contains c.exitCode = true) ∧
      (∀ c, Ended xs .interpret c → case.interpretCodes.contains c.exitCode = true) ∧
      (∀ x ∈ xs, ∀ c, x.call.stage = .compile → x.answer = .completed c →
        ToInterpret settings case c → ∃ t, x.left.write settings.scratch c.stdout = .ok t) ∧
      (∀ c d, Ended xs .interpret c → Ended xs .reference d →
        c.exitCode = d.exitCode ∧ c.stdout = d.stdout) := by
  cases h with
  | unanswered hf => cases hf <;> simp
  | interpreted hacc hzero hmode hw hi =>
    cases hi with
    | unanswered hf => cases hf <;> simp_all
    | checked hacc' hzero' hmode' hr =>
      cases hr with
      | unanswered hf => cases hf <;> simp_all
      | compared => simp_all [judge_eq_pass]
    | _ => simp_all
  | _ => simp_all [toInterpret_iff]

theorem Course.fails (h : Course settings case deadline xs p) :
    ∀ reason, p.verdict = .fail reason → Explains settings case xs reason := by
  cases h with
  | unanswered hf => cases hf <;> simp_all [Explains]
  | interpreted _ _ _ _ hi =>
    cases hi with
    | unanswered hf => cases hf <;> simp_all [Explains]
    | checked _ _ _ hcourse =>
      cases hcourse with
      | unanswered hf => cases hf <;> simp_all [Explains]
      | compared =>
        intro reason hfail
        rcases judge_eq_fail hfail with ⟨rfl, hne⟩ | ⟨rfl, hcode, hout⟩
        · simpa [Explains] using hne
        · simpa [Explains] using ⟨hcode, hout⟩
    | _ => simp_all [Explains]
  | _ => simp_all [Explains, toInterpret_iff]

/-- The streams that a failure is shown with are those of tools that have ended. -/
theorem Explains.ended {reason : FailReason} (h : Explains settings case xs reason) :
    ∀ stage ∈ shownWith reason, ∃ c, Ended xs stage c := by
  cases reason with
  | compilerCode | interpretCode =>
    obtain ⟨c, hc, -⟩ := h
    simpa [shownWith] using ⟨c, hc⟩
  | exitCodes | outputs =>
    obtain ⟨c, d, hc, hd, -⟩ := h
    simpa [shownWith] using ⟨⟨c, hc⟩, ⟨d, hd⟩⟩
  | timeout | launch | unprepared => simp [shownWith]

theorem Course.shown (h : Course settings case deadline xs p) :
    ∀ reason, p.verdict = .fail reason → ∀ stage ∈ shownWith reason,
      ∃ c, Ended xs stage c ∧ (p.stages.find? (·.stage = stage)).map (·.capture) = some c := by
  intro reason hfail stage hstage
  obtain ⟨c, hc⟩ := (h.fails reason hfail).ended stage hstage
  refine ⟨c, hc, ?_⟩
  rw [h.stages, find?_record_of_ended (h.order.sublist.nodup (by decide)) hc]
  rfl

end

/-- A tool that always ends with exit code zero and writes these bytes. -/
def writing (name : String) (stage : Stage) (stdout : Bytes) : Tool :=
  .scripted name stage [.completed { stdout }]

/-- Tools whose compiler writes four bytes of code. -/
def codeTools : Toolchain where
  compiler := writing "compiler" .compile [0x43, 0x4f, 0x44, 0x45]
  interpreter := writing "interpreter" .interpret []
  reference := writing "reference" .reference []

/-- A case that expects success of its tools. -/
def emptyCase : TestCase where
  name := "a"
  origin := ⟨"a.go"⟩
  source := ""

end Conformance.Pipeline
