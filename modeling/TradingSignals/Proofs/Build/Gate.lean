import Mathlib.Data.List.Basic
import TradingSignals.Build.Outcome
import TradingSignals.Catalog.BuiltIn
import TradingSignals.Proofs.Signal.Compilation
import TradingSignals.Proofs.Validation.Passed

namespace TradingSignals

/-- What the check leaves open about a value that is given for a declared argument: it does not
look into optional arguments nor into those that are no numbers, and it takes bounds as they are
unless they are broken. -/
def ArgSpec.Recordable (spec : ArgSpec) (v : Scalar) : Prop :=
  (spec.optional = true ∨ spec.kind ≠ .number → v.Converts) ∧ spec.BoundsConvert

theorem ArgSpec.recordable_iff {spec : ArgSpec} {args : List (String × Scalar)} {v : Scalar}
    (h : spec.defects args = .ok []) (hv : args.lookup spec.key = some v) :
    spec.Recordable v ↔ v.Converts ∧ spec.BoundsConvert := by
  apply and_congr_left'
  constructor
  · intro hr
    -- what the check has looked into converts, the rest is left to the hypothesis
    by_cases ho : spec.optional = true
    · exact hr (Or.inl ho)
    by_cases hk : spec.kind = .number
    · obtain ⟨w, hw, hc⟩ := converts_of_passed h (Bool.not_eq_true _ ▸ ho) hk
      cases hw.symm.trans hv
      exact hc
    · exact hr (Or.inr hk)
  · intro hc _
    exact hc

theorem SignalNode.compilable_of_passed {catalog : Catalog} {n : SignalNode}
    (h : n.findings catalog = .ok []) :
    n.Compilable catalog ↔
      ∀ p m c, n.subtree? p = some m → catalog.lookup m.catalogId = some c →
        ∀ spec ∈ c.requiredArgs, ∀ v, m.args.lookup spec.key = some v → spec.Recordable v := by
  constructor
  · intro hc p m c hm hl spec hs v hv
    obtain ⟨d, hd, hr⟩ := hc p m hm
    cases hl.symm.trans hd
    exact ⟨fun _ => (hr spec hs v hv).1, (hr spec hs v hv).2⟩
  · intro hr p m hm
    obtain ⟨c, hl, hd⟩ := passed_at h hm
    refine ⟨c, hl, ?_⟩
    intro spec hs v hv
    have hp := (Capability.passed_iff.1 hd).1 spec hs
    exact (ArgSpec.recordable_iff hp hv).1 (hr p m c hm hl spec hs v hv)

/-- The conversion that fails when a tree is compiled. -/
def CompileFault.conversion? : CompileFault → Option ConversionFault
  | .conversion fault => some fault
  | _ => none

/-- A conversion that fails is told in the same words everywhere. -/
theorem CompileFault.message_of_conversion {fault : CompileFault} {conversion : ConversionFault}
    (h : fault.conversion? = some conversion) (wording : Wording) :
    fault.message wording = conversion.message := by
  cases fault with
  | conversion fault =>
    cases h
    rfl
  | _ => cases h

theorem Strategy.compile_eq_ok_iff {catalog : Catalog} {s : Strategy} {outcome : BuildOutcome} :
    s.compile catalog = .ok outcome ↔
      ∃ entry exit, compileSignals catalog s.entrySignals = .ok entry ∧
        compileSignals catalog s.exitSignals = .ok exit ∧
        outcome = .success entry exit s.settings := by
  constructor
  · intro h
    obtain ⟨entry, he, h⟩ := bind_eq_ok_iff.1 h
    obtain ⟨exit, hx, h⟩ := bind_eq_ok_iff.1 h
    exact ⟨entry, exit, he, hx, (Except.ok.inj h).symm⟩
  · intro h
    obtain ⟨entry, exit, he, hx, rfl⟩ := h
    exact bind_eq_ok_iff.2 ⟨entry, he, bind_eq_ok_iff.2 ⟨exit, hx, rfl⟩⟩

theorem Strategy.compile_succeeds_iff {catalog : Catalog} {s : Strategy} :
    Succeeds (s.compile catalog) ↔ ∀ list, Succeeds (compileSignals catalog (s.signals list)) := by
  rw [SignalList.forall_iff]
  exact succeeds_bind_iff fun entry _ => succeeds_map_iff

theorem Strategy.compile_eq_error {catalog : Catalog} {s : Strategy} {fault : CompileFault}
    (h : s.compile catalog = .error fault) :
    ∃ list, compileSignals catalog (s.signals list) = .error fault := by
  rcases bind_eq_error_iff.1 h with h | ⟨entry, -, h⟩
  · exact ⟨.entry, h⟩
  rcases bind_eq_error_iff.1 h with h | ⟨exit, -, h⟩
  · exact ⟨.exit, h⟩
  · cases h

namespace StrategyDocument

variable {catalog : Catalog} {d : StrategyDocument}

/-- Behind the check, and with no question to put first, a build is what compiling comes to. -/
theorem build_of_compiled (hq : (d.strategy.bind fun s => given? s.clarificationRequest) = none)
    (hv : d.problems catalog = .ok []) {outcome : BuildOutcome}
    (hc : (d.strategy.getD {}).compile catalog = .ok outcome) : d.build catalog = outcome := by
  rw [build, hq]
  simp only [hv, hc]

theorem build_of_fault (hq : (d.strategy.bind fun s => given? s.clarificationRequest) = none)
    (hv : d.problems catalog = .ok []) {fault : CompileFault}
    (hc : (d.strategy.getD {}).compile catalog = .error fault) :
    d.build catalog = .failed (.compilation fault) := by
  rw [build, hq]
  simp only [hv, hc]

theorem signals_getD (list : SignalList) : (d.strategy.getD {}).signals list = d.signals list := by
  unfold signals
  cases d.strategy with
  | none => cases list <;> rfl
  | some s => rfl

/-- What the check leaves open, at every signal of a document. -/
def Recordable (catalog : Catalog) (d : StrategyDocument) : Prop :=
  ∀ list, ∀ n ∈ d.signals list, ∀ p m c,
    n.subtree? p = some m → catalog.lookup m.catalogId = some c →
      ∀ spec ∈ c.requiredArgs, ∀ v, m.args.lookup spec.key = some v → spec.Recordable v

theorem compile_succeeds_iff_of_passed (hv : d.problems catalog = .ok []) :
    Succeeds ((d.strategy.getD {}).compile catalog) ↔ d.Recordable catalog := by
  obtain ⟨-, -, hp⟩ := passed hv
  rw [Strategy.compile_succeeds_iff]
  apply forall_congr'
  intro list
  rw [signals_getD, compileSignals_succeeds_iff]
  apply forall₂_congr
  intro n hn
  rw [SignalNode.compile_succeeds_iff, SignalNode.compilable_of_passed (hp list n hn)]

/-- No id is unknown any more behind the check. -/
theorem compileSignals_ne_unknown_of_passed (hv : d.problems catalog = .ok []) (list : SignalList)
    (id : String) :
    compileSignals catalog (d.signals list) ≠ .error (.unknownCapability id) := by
  intro h
  obtain ⟨-, -, hp⟩ := passed hv
  obtain ⟨n, hn, h⟩ := compileSignals_eq_unknown h
  obtain ⟨p, m, hm, hu⟩ := SignalNode.unknown_of_compile h
  obtain ⟨c, hc, -⟩ := SignalNode.passed_at (hp list n hn) hm
  cases hu.symm.trans hc

theorem fault_ne_unknown_of_passed (hv : d.problems catalog = .ok []) {fault : CompileFault}
    (h : (d.strategy.getD {}).compile catalog = .error fault) (id : String) :
    fault ≠ .unknownCapability id := by
  intro he
  subst he
  obtain ⟨list, h⟩ := Strategy.compile_eq_error h
  rw [signals_getD] at h
  exact compileSignals_ne_unknown_of_passed hv list id h

/-- The check is a gate for what it looks at. A document that passes it is built unless a value
is given for an optional argument, or for one that is no number, that is no double, or bounds are
declared that are none; then it fails, though every id is known. -/
theorem build_succeeds_iff_of_passed
    (hq : (d.strategy.bind fun s => given? s.clarificationRequest) = none)
    (hv : d.problems catalog = .ok []) :
    ((∀ list, Succeeds (compileSignals catalog (d.signals list))) ↔ d.Recordable catalog) ∧
      ((d.build catalog).status = "success" ↔ d.Recordable catalog) ∧
      (¬d.Recordable catalog → ∃ fault, d.build catalog = .failed (.compilation fault) ∧
        ∀ id, fault ≠ .unknownCapability id) := by
  have hr := compile_succeeds_iff_of_passed hv
  have hl : (∀ list, Succeeds (compileSignals catalog (d.signals list))) ↔
      Succeeds ((d.strategy.getD {}).compile catalog) := by
    simp only [Strategy.compile_succeeds_iff, signals_getD]
  refine ⟨hl.trans hr, ?_, ?_⟩
  · rw [← hr]
    cases h : (d.strategy.getD {}).compile catalog with
    | error fault =>
      rw [build_of_fault hq hv h]
      exact iff_of_false (show "failed" ≠ "success" by decide) not_succeeds_error
    | ok outcome =>
      rw [build_of_compiled hq hv h]
      obtain ⟨entry, exit, -, -, rfl⟩ := Strategy.compile_eq_ok_iff.1 h
      exact iff_of_true rfl (succeeds_ok _)
  · intro hn
    cases h : (d.strategy.getD {}).compile catalog with
    | error fault =>
      exact ⟨fault, build_of_fault hq hv h, fault_ne_unknown_of_passed hv h⟩
    | ok outcome => exact absurd (hr.1 ⟨outcome, h⟩) hn

end StrategyDocument

/-- Whether one price is above another, with a value beside them. -/
def SignalNode.comparison (operator : String) (value : Scalar) : SignalNode where
  catalogId := "parametric"
  args := [("Rule1 Base Offset", .int 0), ("Rule1 Second Offset", .int 0), ("Rule1 Value", value)]
  children := [{ catalogId := "raw.close" }, { catalogId := "raw.open" }]
  rule := { mode1 := some "Signal", operation1 := some ">", crossOp := some operator }

theorem comparison_with_word_not_built :
    let d := StrategyDocument.single (.comparison "OFF" (.text "abc"))
    (d.strategy.bind fun s => given? s.clarificationRequest) = none ∧
      d.problems .builtIn = .ok [] ∧ ¬d.Recordable .builtIn ∧
      ∃ fault, d.build .builtIn = .failed (.compilation fault) ∧
        ∀ id, fault ≠ .unknownCapability id := by
  intro d
  have hq : (d.strategy.bind fun s => given? s.clarificationRequest) = none := rfl
  have hv : d.problems .builtIn = .ok [] := by decide +kernel
  obtain ⟨-, hs, hf⟩ := StrategyDocument.build_succeeds_iff_of_passed hq hv
  have hr : ¬d.Recordable .builtIn := mt hs.2 (by decide +kernel)
  exact ⟨hq, hv, hr, hf hr⟩

/-- The value is optional, so that nothing is found to be wrong with it. -/
theorem comparison_with_word_passes_and_fails :
    let d := StrategyDocument.single (.comparison "OFF" (.text "abc"))
    d.problems .builtIn = .ok [] ∧ ∀ wording, (d.build .builtIn).errorMessage wording =
      some "Error building strategy: could not convert string to float: 'abc'" := by
  intro d
  have hv : d.problems .builtIn = .ok [] := by decide +kernel
  have hfails : (failure? ((d.strategy.getD {}).compile .builtIn)).any fun fault =>
      fault.conversion? == some (.unreadable (.ofString "abc")) := by
    decide +kernel
  obtain ⟨fault, hf, hconversion⟩ := (Option.any_eq_true _ _).1 hfails
  refine ⟨hv, fun wording => ?_⟩
  have hsaid := fault.message_of_conversion (beq_iff_eq.1 hconversion) wording
  have hquoted : ConversionFault.message (.unreadable (.ofString "abc")) =
      "could not convert string to float: 'abc'" := by
    decide +kernel
  rw [StrategyDocument.build_of_fault rfl hv (failure?_eq_some_iff.1 hf), BuildOutcome.errorMessage,
    BuildFault.message, hsaid, hquoted]
  rfl

end TradingSignals
