import TradingSignals.Proofs.Build.Gate
import TradingSignals.Proofs.Signal.RoundTrip

namespace TradingSignals

namespace StrategyDocument

/-- A document with a question in it, whatever else it holds. -/
def Asks (d : StrategyDocument) (question : String) : Prop :=
  ∃ s, d.strategy = some s ∧ s.clarificationRequest = some question ∧ question ≠ ""

/-- A build breaks off in the check, or behind a check that finds nothing, in the first list that
does not compile. -/
inductive BreaksOff (catalog : Catalog) (d : StrategyDocument) : BuildFault → Prop
  | check {fault : ConversionFault} (hv : d.problems catalog = .error fault) :
    BreaksOff catalog d (.validation fault)
  | entry {fault : CompileFault} (hv : d.problems catalog = .ok [])
    (he : compileSignals catalog (d.signals .entry) = .error fault) :
    BreaksOff catalog d (.compilation fault)
  | exit {fault : CompileFault} {entry : List CompiledSignal} (hv : d.problems catalog = .ok [])
    (he : compileSignals catalog (d.signals .entry) = .ok entry)
    (hx : compileSignals catalog (d.signals .exit) = .error fault) :
    BreaksOff catalog d (.compilation fault)

/-- The four ends of a build, each with what leads to it. -/
inductive EndsIn (catalog : Catalog) (d : StrategyDocument) : BuildOutcome → Prop
  | question {question : String} (hq : d.Asks question) :
    EndsIn catalog d (.needsClarification question)
  | problems {p : Problem} {problems : List Problem} (hq : ∀ question, ¬d.Asks question)
    (hv : d.problems catalog = .ok (p :: problems)) : EndsIn catalog d (.invalid (p :: problems))
  | fault {fault : BuildFault} (hq : ∀ question, ¬d.Asks question)
    (hf : d.BreaksOff catalog fault) : EndsIn catalog d (.failed fault)
  | built {s : Strategy} {entry exit : List CompiledSignal} (hq : ∀ question, ¬d.Asks question)
    (hv : d.problems catalog = .ok []) (hs : d.strategy = some s)
    (he : compileSignals catalog (d.signals .entry) = .ok entry)
    (hx : compileSignals catalog (d.signals .exit) = .ok exit) :
    EndsIn catalog d (.success entry exit s.settings)

variable {catalog : Catalog} {d : StrategyDocument}

theorem asks_iff {question : String} :
    d.Asks question ↔ (d.strategy.bind fun s => given? s.clarificationRequest) = some question := by
  simp only [Asks, given?, Option.bind_eq_some_iff, Option.filter_eq_some_iff, bne_iff_ne]

theorem not_asks_iff : (∀ question, ¬d.Asks question) ↔
    (d.strategy.bind fun s => given? s.clarificationRequest) = none := by
  simp only [asks_iff, Option.eq_none_iff_forall_ne_some]

/-- A fault of compiling is that of the first list that has one. -/
theorem breaksOff_of_compile {fault : CompileFault} (hv : d.problems catalog = .ok [])
    (h : (d.strategy.getD {}).compile catalog = .error fault) :
    d.BreaksOff catalog (.compilation fault) := by
  have hentry : (d.strategy.getD {}).entrySignals = d.signals .entry := signals_getD .entry
  have hexit : (d.strategy.getD {}).exitSignals = d.signals .exit := signals_getD .exit
  rw [Strategy.compile, hentry, hexit] at h
  rcases bind_eq_error_iff.1 h with h | ⟨entry, he, h⟩
  · exact .entry hv h
  rcases bind_eq_error_iff.1 h with h | ⟨exit, -, h⟩
  · exact .exit hv he h
  · cases h

theorem endsIn_build : d.EndsIn catalog (d.build catalog) := by
  unfold build
  cases hq : d.strategy.bind fun s => given? s.clarificationRequest with
  | some question => exact .question (asks_iff.2 hq)
  | none =>
    have hno := not_asks_iff.2 hq
    cases hv : d.problems catalog with
    | error fault => exact .fault hno (.check hv)
    | ok problems =>
      cases problems with
      | cons p problems => exact .problems hno hv
      | nil =>
        cases hc : (d.strategy.getD {}).compile catalog with
        | error fault => exact .fault hno (breaksOff_of_compile hv hc)
        | ok outcome =>
          obtain ⟨entry, exit, he, hx, rfl⟩ := Strategy.compile_eq_ok_iff.1 hc
          obtain ⟨-, hsome, -⟩ := passed hv
          obtain ⟨s, hs⟩ := Option.isSome_iff_exists.1 hsome
          have hentry : (d.strategy.getD {}).entrySignals = d.signals .entry := signals_getD .entry
          have hexit : (d.strategy.getD {}).exitSignals = d.signals .exit := signals_getD .exit
          rw [hentry] at he
          rw [hexit] at hx
          have hsettings : (d.strategy.getD {}).settings = s.settings := by rw [hs]; rfl
          rw [hsettings]
          exact .built hno hv hs he hx

theorem compile_of_breaksOff {fault : BuildFault} (h : d.BreaksOff catalog fault) :
    (∃ conversion, d.problems catalog = .error conversion ∧ fault = .validation conversion) ∨
      ∃ compile, d.problems catalog = .ok [] ∧
        (d.strategy.getD {}).compile catalog = .error compile ∧ fault = .compilation compile := by
  have hentry : (d.strategy.getD {}).entrySignals = d.signals .entry := signals_getD .entry
  have hexit : (d.strategy.getD {}).exitSignals = d.signals .exit := signals_getD .exit
  cases h with
  | check hv => exact Or.inl ⟨_, hv, rfl⟩
  | entry hv he =>
    refine Or.inr ⟨_, hv, ?_, rfl⟩
    rw [Strategy.compile, hentry, he]
    rfl
  | exit hv he hx =>
    refine Or.inr ⟨_, hv, ?_, rfl⟩
    rw [Strategy.compile, hentry, hexit, he, hx]
    rfl

theorem build_of_endsIn {outcome : BuildOutcome} (h : d.EndsIn catalog outcome) :
    d.build catalog = outcome := by
  cases h with
  | question hq => rw [build, asks_iff.1 hq]
  | problems hq hv =>
    rw [build, not_asks_iff.1 hq]
    simp only [hv]
  | fault hq hf =>
    rcases compile_of_breaksOff hf with ⟨fault, hv, rfl⟩ | ⟨fault, hv, hc, rfl⟩
    · rw [build, not_asks_iff.1 hq]
      simp only [hv]
    · exact build_of_fault (not_asks_iff.1 hq) hv hc
  | built hq hv hs he hx =>
    apply build_of_compiled (not_asks_iff.1 hq) hv
    rw [signals, hs] at he hx
    rw [hs]
    exact Strategy.compile_eq_ok_iff.2 ⟨_, _, he, hx, rfl⟩

/-- A build comes to one end, and to no other than what leads to it. -/
theorem endsIn_iff {outcome : BuildOutcome} :
    d.EndsIn catalog outcome ↔ d.build catalog = outcome := by
  constructor
  · exact build_of_endsIn
  · intro h
    rw [← h]
    exact endsIn_build

theorem build_eq_needsClarification_iff {question : String} :
    d.build catalog = .needsClarification question ↔ d.Asks question := by
  rw [← endsIn_iff]
  constructor
  · intro h
    cases h with
    | question hq => exact hq
  · exact .question

theorem build_eq_invalid_iff {problems : List Problem} :
    d.build catalog = .invalid problems ↔
      (∀ question, ¬d.Asks question) ∧ d.problems catalog = .ok problems ∧ problems ≠ [] := by
  rw [← endsIn_iff]
  constructor
  · intro h
    cases h with
    | problems hq hv => exact ⟨hq, hv, List.cons_ne_nil _ _⟩
  · rintro ⟨hq, hv, hne⟩
    obtain ⟨p, problems, rfl⟩ := List.exists_cons_of_ne_nil hne
    exact .problems hq hv

theorem build_eq_failed_iff {fault : BuildFault} :
    d.build catalog = .failed fault ↔
      (∀ question, ¬d.Asks question) ∧ d.BreaksOff catalog fault := by
  rw [← endsIn_iff]
  constructor
  · intro h
    cases h with
    | fault hq hf => exact ⟨hq, hf⟩
  · rintro ⟨hq, hf⟩
    exact .fault hq hf

theorem build_eq_success_iff {entry exit : List CompiledSignal} {settings : Option Settings} :
    d.build catalog = .success entry exit settings ↔
      (∀ question, ¬d.Asks question) ∧ d.problems catalog = .ok [] ∧
        (∃ s, d.strategy = some s ∧ s.settings = settings) ∧
        compileSignals catalog (d.signals .entry) = .ok entry ∧
        compileSignals catalog (d.signals .exit) = .ok exit := by
  rw [← endsIn_iff]
  constructor
  · intro h
    cases h with
    | built hq hv hs he hx => exact ⟨hq, hv, ⟨_, hs, rfl⟩, he, hx⟩
  · rintro ⟨hq, hv, ⟨s, hs, rfl⟩, he, hx⟩
    exact .built hq hv hs he hx

theorem build_ne_noDrafter : d.build catalog ≠ .noDrafter := by
  intro h
  cases endsIn_iff.2 h

/-- Nothing that a build of a document tells comes from a refused request. -/
theorem isProper_build : (d.build catalog).isProper := by
  cases h : d.build catalog with
  | failed fault =>
    cases endsIn_iff.2 h with
    | fault _ hf => cases hf <;> rfl
  | _ => rfl

end StrategyDocument

namespace Json

/-- Something other than null stands under a key. -/
def Shows (doc : Json) (key : String) : Prop := ∃ v, doc.field? key = some v ∧ v ≠ .null

def HasStatus (doc : Json) (status : String) : Prop := doc.field? "Status" = some (.text status)

end Json

namespace BuildOutcome

variable {wording : Wording} {outcome : BuildOutcome}

@[simp] theorem field?_success :
    (outcome.toJson wording).field? "Success" = some (.bool outcome.succeeded) := rfl

@[simp] theorem field?_signals (list : SignalList) :
    (outcome.toJson wording).field? list.name = some (signalsToJson (outcome.signals list)) := by
  cases list <;> rfl

@[simp] theorem field?_settings :
    (outcome.toJson wording).field? "Settings" =
      some (Json.ofOption Settings.toJson outcome.settings) := rfl

@[simp] theorem field?_problems : (outcome.toJson wording).field? "ValidationErrors" =
    outcome.problems.map fun problems => .array (problems.map Problem.toJson) := by
  cases outcome <;> rfl

@[simp] theorem hasStatus_iff {status : String} :
    (outcome.toJson wording).HasStatus status ↔ outcome.status = status := by
  have hf : (outcome.toJson wording).field? "Status" = some (.text outcome.status) := rfl
  rw [Json.HasStatus, hf, Option.some.injEq, JsonTree.text.injEq]

theorem status_eq_success_iff : outcome.status = "success" ↔
    ∃ entry exit settings, outcome = .success entry exit settings := by
  cases outcome <;> simp [status]

theorem status_eq_needsClarification_iff : outcome.status = "needs_clarification" ↔
    ∃ question, outcome = .needsClarification question := by
  cases outcome <;> simp [status]

theorem status_eq_invalid_iff : outcome.status = "validation_failed" ↔
    ∃ problems, outcome = .invalid problems := by
  cases outcome <;> simp [status]

theorem status_eq_failed_iff : outcome.status = "failed" ↔
    (∃ fault, outcome = .failed fault) ∨ outcome = .noDrafter := by
  cases outcome <;> simp [status]

theorem shows_signals_iff (list : SignalList) :
    (outcome.toJson wording).Shows list.name ↔ outcome.status = "success" := by
  simp only [Json.Shows, field?_signals, Option.some.injEq, exists_eq_left']
  cases outcome with
  | success entry exit settings => cases list <;> exact iff_of_true nofun rfl
  | _ => simp [signals, signalsToJson, Json.ofOption, status]

end BuildOutcome

/-- What the document of a build says, and when. -/
structure StrategyDocument.Reported (wording : Wording) (catalog : Catalog) (d : StrategyDocument)
    (doc : Json) : Prop where
  status : ∃ status ∈ ["success", "needs_clarification", "validation_failed", "failed"],
    doc.HasStatus status
  success : doc.HasStatus "success" ↔ doc.field? "Success" = some (.bool true)
  signals : ∀ list : SignalList, doc.HasStatus "success" ↔ doc.Shows list.name
  built : doc.HasStatus "success" → ∃ s, d.strategy = some s ∧
    doc.field? "Settings" = some (Json.ofOption Settings.toJson s.settings) ∧
    ∀ list, ∃ signals, compileSignals catalog (d.signals list) = .ok signals ∧
      signals.length = (d.signals list).length ∧
      doc.field? list.name = some (.array (signals.map CompiledSignal.toWire))
  asks : doc.HasStatus "needs_clarification" ↔ ∃ question, d.Asks question
  question : ∀ question, d.Asks question →
    doc.field? "ClarificationRequest" = some (.text question) ∧
    doc.field? "ValidationErrors" = none ∧ doc.field? "ErrorMessage" = some .null ∧
    ∀ list : SignalList, doc.field? list.name = some .null
  invalid : doc.HasStatus "validation_failed" ↔ (∀ question, ¬d.Asks question) ∧
    ∃ p problems, d.problems catalog = .ok (p :: problems)
  listed : (doc.field? "ValidationErrors").isSome ↔ doc.HasStatus "validation_failed"
  problems : doc.HasStatus "validation_failed" → ∃ problems, d.problems catalog = .ok problems ∧
    doc.field? "ValidationErrors" = some (.array (problems.map Problem.toJson)) ∧
    doc.field? "ErrorMessage" = some (.text (problemSummary problems))
  failed : doc.HasStatus "failed" ↔ (∀ question, ¬d.Asks question) ∧
    ∃ fault, d.BreaksOff catalog fault
  fault : doc.HasStatus "failed" → ∃ fault, d.BreaksOff catalog fault ∧
    doc.field? "ErrorMessage" =
      some (.text ("Error building strategy: " ++ fault.message wording)) ∧
    doc.field? "Settings" = some .null ∧
    ∀ list : SignalList, doc.field? list.name = some .null

namespace StrategyDocument

variable {wording : Wording} {catalog : Catalog} {d : StrategyDocument}

theorem status_eq_failed_iff : (d.build catalog).status = "failed" ↔
    ∃ fault, d.build catalog = .failed fault := by
  rw [BuildOutcome.status_eq_failed_iff]
  exact or_iff_left build_ne_noDrafter

theorem reported : d.Reported wording catalog ((d.build catalog).toJson wording) where
  status := by
    simp only [BuildOutcome.hasStatus_iff, exists_eq_right']
    cases d.build catalog <;> simp [BuildOutcome.status]
  success := by
    rw [BuildOutcome.hasStatus_iff, BuildOutcome.field?_success]
    cases d.build catalog <;> simp [BuildOutcome.status, BuildOutcome.succeeded]
  signals := by
    intro list
    rw [BuildOutcome.hasStatus_iff, BuildOutcome.shows_signals_iff]
  built := by
    intro h
    rw [BuildOutcome.hasStatus_iff, BuildOutcome.status_eq_success_iff] at h
    obtain ⟨entry, exit, settings, hb⟩ := h
    obtain ⟨-, -, ⟨s, hs, rfl⟩, he, hx⟩ := build_eq_success_iff.1 hb
    refine ⟨s, hs, ?_, ?_⟩
    · rw [hb, BuildOutcome.field?_settings]
      rfl
    · intro list
      rw [hb, BuildOutcome.field?_signals]
      cases list with
      | entry => exact ⟨entry, he, (compileSignals_eq_ok_iff.1 he).length_eq.symm, rfl⟩
      | exit => exact ⟨exit, hx, (compileSignals_eq_ok_iff.1 hx).length_eq.symm, rfl⟩
  asks := by
    rw [BuildOutcome.hasStatus_iff, BuildOutcome.status_eq_needsClarification_iff]
    simp only [build_eq_needsClarification_iff]
  question := by
    intro question h
    rw [build_eq_needsClarification_iff.2 h]
    exact ⟨rfl, rfl, rfl, fun list => by cases list <;> rfl⟩
  invalid := by
    rw [BuildOutcome.hasStatus_iff, BuildOutcome.status_eq_invalid_iff]
    simp only [build_eq_invalid_iff, exists_and_left]
    apply and_congr_right'
    constructor
    · rintro ⟨problems, hv, hne⟩
      obtain ⟨p, problems, rfl⟩ := List.exists_cons_of_ne_nil hne
      exact ⟨p, problems, hv⟩
    · rintro ⟨p, problems, hv⟩
      exact ⟨p :: problems, hv, List.cons_ne_nil _ _⟩
  listed := by
    rw [BuildOutcome.hasStatus_iff, BuildOutcome.field?_problems, Option.isSome_map]
    cases d.build catalog <;> simp [BuildOutcome.status, BuildOutcome.problems]
  problems := by
    intro h
    rw [BuildOutcome.hasStatus_iff, BuildOutcome.status_eq_invalid_iff] at h
    obtain ⟨problems, hb⟩ := h
    obtain ⟨-, hv, -⟩ := build_eq_invalid_iff.1 hb
    rw [hb]
    exact ⟨problems, hv, rfl, rfl⟩
  failed := by
    rw [BuildOutcome.hasStatus_iff, status_eq_failed_iff]
    simp only [build_eq_failed_iff, exists_and_left]
  fault := by
    intro h
    rw [BuildOutcome.hasStatus_iff, status_eq_failed_iff] at h
    obtain ⟨fault, hb⟩ := h
    obtain ⟨-, hf⟩ := build_eq_failed_iff.1 hb
    rw [hb]
    exact ⟨fault, hf, rfl, rfl, fun list => by cases list <;> rfl⟩

end StrategyDocument

namespace BuildOutcome

variable {wording : Wording} {outcome : BuildOutcome} {doc : Json}

theorem toJson?_eq_ok_iff : outcome.toJson? wording = .ok doc ↔
    (∀ list signals, outcome.signals list = some signals → ∀ s ∈ signals, s.fits) ∧
      outcome.toJson wording = doc := by
  have hlist : ∀ list, (∀ signals, outcome.signals list = some signals → ∀ s ∈ signals, s.fits) ↔
      ((outcome.signals list).getD []).all CompiledSignal.fits := by
    intro list
    cases outcome.signals list <;> simp
  have hall : ([SignalList.entry, .exit].filterMap outcome.signals).all
      (·.all CompiledSignal.fits) ↔
        ∀ list signals, outcome.signals list = some signals → ∀ s ∈ signals, s.fits := by
    rw [SignalList.forall_iff, hlist, hlist, List.filterMap_cons, List.filterMap_cons]
    cases outcome.signals .entry <;> cases outcome.signals .exit <;> simp
  rw [toJson?, ← hall]
  split
  · next h =>
    rw [Except.ok.injEq]
    exact (and_iff_right h).symm
  · next h => exact iff_of_false nofun fun hd => h hd.1

end BuildOutcome

namespace StrategyDocument

variable {catalog : Catalog} {d : StrategyDocument}

theorem compileSignals_of_built {list : SignalList} {signals : List CompiledSignal}
    (h : (d.build catalog).signals list = some signals) :
    compileSignals catalog (d.signals list) = .ok signals := by
  cases hb : d.build catalog with
  | success entry exit settings =>
    obtain ⟨-, -, -, he, hx⟩ := build_eq_success_iff.1 hb
    rw [hb] at h
    cases list with
    | entry =>
      cases h
      exact he
    | exit =>
      cases h
      exact hx
  | _ =>
    rw [hb] at h
    cases list <;> cases h

/-- What is built of a document text is far less deep than what can be written. -/
theorem depth_toWire_le_of_built {text : String} (hd : read text = .ok d) {list : SignalList}
    {signals : List CompiledSignal} (h : (d.build catalog).signals list = some signals) :
    ∀ s ∈ signals, s.toWire.depth ≤ 200 := by
  intro s hs
  have hc := compileSignals_eq_ok_iff.1 (compileSignals_of_built h)
  obtain ⟨n, hn, hns⟩ := exists_mem_of_forall₂ hc hs
  exact CompiledSignal.depth_toWire_le_of_read hd hn hns

theorem toJson?_of_read {text : String} (hd : read text = .ok d) (wording : Wording) :
    (d.build catalog).toJson? wording = .ok ((d.build catalog).toJson wording) := by
  refine BuildOutcome.toJson?_eq_ok_iff.2 ⟨?_, rfl⟩
  intro list signals h s hs
  exact CompiledSignal.fits_iff.2 ((depth_toWire_le_of_built hd h s hs).trans (by decide))

/-- Every build comes to exactly one end, and its document tells which and what led there. Only a
signal too deep to be written keeps it from having a document, and a document text is never built
into one. -/
theorem build_reported (wording : Wording) (catalog : Catalog) (d : StrategyDocument) :
    (∀ outcome, d.EndsIn catalog outcome ↔ d.build catalog = outcome) ∧
      ((∃ doc, (d.build catalog).toJson? wording = .ok doc) ↔
        ∀ list signals, (d.build catalog).signals list = some signals → ∀ s ∈ signals, s.fits) ∧
      (∀ doc, (d.build catalog).toJson? wording = .ok doc → d.Reported wording catalog doc) ∧
      ∀ text, read text = .ok d → ∃ doc, (d.build catalog).toJson? wording = .ok doc := by
  refine ⟨fun _ => endsIn_iff, ?_, ?_, ?_⟩
  · simp only [BuildOutcome.toJson?_eq_ok_iff, exists_and_left, exists_eq', and_true]
  · intro doc h
    obtain ⟨-, rfl⟩ := BuildOutcome.toJson?_eq_ok_iff.1 h
    exact reported
  · exact fun text hd => ⟨_, toJson?_of_read hd wording⟩

/-- A price that may be taken some bars back. -/
def shiftedPrice : Capability where
  id := "price"
  name := "Price"
  signalType := "Price"
  requiredArgs := [{ key := "Shift", optional := true }]

def shiftedByWord : String :=
  "\x7b\"Strategy\": \x7b\"EntrySignals\": [\x7b\"CatalogId\": \"price\"\x7d], \"ExitSignals\": [\x7b\"CatalogId\": \"price\", \"Args\": \x7b\"Shift\": \"two\"\x7d\x7d]\x7d\x7d"

/-- The entry list is compiled before the exit list fails, and nothing of it is told. -/
theorem exit_by_word_reported :
    ∃ d, read shiftedByWord = .ok d ∧
      Succeeds (compileSignals (.ofList [shiftedPrice]) (d.signals .entry)) ∧
      ∀ wording, ∃ doc, (d.build (.ofList [shiftedPrice])).toJson? wording = .ok doc ∧
        doc.HasStatus "failed" ∧
        doc.field? "EntrySignals" = some .null ∧ doc.field? "ExitSignals" = some .null := by
  have hread : ∃ d, read shiftedByWord = .ok d ∧
      ((compileSignals (.ofList [shiftedPrice]) (d.signals .entry)).toOption.any (fun _ => true) &&
        (d.build (.ofList [shiftedPrice])).status == "failed") := by
    rw [← any_toOption_iff]
    decide +kernel
  obtain ⟨d, hd, hp⟩ := hread
  rw [Bool.and_eq_true, beq_iff_eq, any_toOption_iff] at hp
  obtain ⟨⟨entry, he, -⟩, hs⟩ := hp
  refine ⟨d, hd, ⟨entry, he⟩, fun wording => ?_⟩
  obtain ⟨-, -, hreported, hwritten⟩ := build_reported wording (.ofList [shiftedPrice]) d
  obtain ⟨doc, hdoc⟩ := hwritten _ hd
  obtain ⟨-, hj⟩ := BuildOutcome.toJson?_eq_ok_iff.1 hdoc
  have hstatus : doc.HasStatus "failed" := by
    rw [← hj, BuildOutcome.hasStatus_iff]
    exact hs
  obtain ⟨fault, -, -, -, hsignals⟩ := (hreported doc hdoc).fault hstatus
  exact ⟨doc, hdoc, hstatus, hsignals .entry, hsignals .exit⟩

end StrategyDocument

theorem findings_closeUnder (k : Nat) : (closeUnder k).findings .builtIn = .ok [] := by
  have hc : (Catalog.builtIn.lookup "raw.close").any fun c =>
      c.requiredArgs.isEmpty && c.requiredChildren == 0 && !c.isParametric := by
    decide +kernel
  obtain ⟨c, hl, hr⟩ := (Option.any_eq_true _ _).1 hc
  simp only [Bool.and_eq_true, List.isEmpty_iff, beq_iff_eq, Bool.not_eq_true'] at hr
  obtain ⟨⟨hargs, hchildren⟩, hp⟩ := hr
  have hd : ∀ n : Nat, c.defects [] n {} = .ok [] := by
    intro n
    rw [Capability.passed_iff, hargs, hchildren, hp]
    exact ⟨List.forall_mem_nil _, Int.natCast_nonneg n, nofun⟩
  induction k with
  | zero => exact SignalNode.findings_eq_ok_nil_iff.2 ⟨c, hl, hd 0, List.forall_mem_nil _⟩
  | succ k ih =>
    refine SignalNode.findings_eq_ok_nil_iff.2 ⟨c, hl, hd 1, ?_⟩
    rw [List.forall_mem_singleton]
    exact ih

/-- What is built need not fit into a document. -/
theorem deep_build_not_written :
    let d := StrategyDocument.single (closeUnder 127)
    (d.build .builtIn).status = "success" ∧
      ∀ wording, ¬∃ doc, (d.build .builtIn).toJson? wording = .ok doc := by
  intro d
  obtain ⟨s, hs, -, hdepth⟩ := compile_closeUnder 127
  have he : gather (SignalNode.problems .builtIn .entry) [closeUnder 127] = .ok [] := by
    rw [gather_eq_ok_nil_iff, List.forall_mem_singleton]
    exact map_eq_ok_iff.2 ⟨[], findings_closeUnder 127, rfl⟩
  have hv : d.problems .builtIn = .ok [] := by
    rw [StrategyDocument.problems]
    exact bind_eq_ok_iff.2 ⟨[], he, bind_eq_ok_iff.2 ⟨[], rfl, rfl⟩⟩
  have hb : d.build .builtIn = .success [s] [] none := by
    refine StrategyDocument.build_eq_success_iff.2 ⟨?_, hv, ⟨_, rfl, rfl⟩, ?_, rfl⟩
    · exact StrategyDocument.not_asks_iff.2 rfl
    · exact compileSignals_eq_ok_iff.2 (.cons hs .nil)
  refine ⟨by rw [hb]; rfl, ?_⟩
  rintro wording ⟨doc, hdoc⟩
  obtain ⟨hfits, -⟩ := BuildOutcome.toJson?_eq_ok_iff.1 hdoc
  have hfit := hfits .entry [s] (by rw [hb]; rfl) s List.mem_cons_self
  rw [CompiledSignal.fits_iff] at hfit
  omega

end TradingSignals
