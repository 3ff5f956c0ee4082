import TradingSignals.Proofs.Build.Gate
import TradingSignals.Proofs.Signal.Records

namespace TradingSignals

/-- The operator that a code stands for. -/
def crossOpOfCode? (code : Int) : Option String :=
  (crossOpCodes.find? (·.2 == code)).map (·.1)

/-- The mode that a code stands for. -/
def ruleModeOfCode? (code : Int) : Option String :=
  ruleModes.find? fun mode => ruleModeCode (some mode) == code

/-- The operator that is run: one that has no code is run as the default one. -/
def effectiveOperator (operator : String) : String :=
  if (crossOpCodes.lookup operator).isSome then operator else defaultCrossOp

theorem crossOpOfCode_crossOpCode (operator : String) :
    crossOpOfCode? (crossOpCode operator) = some (effectiveOperator operator) := by
  -- no two operators of the table share a code
  have ht : ∀ entry ∈ crossOpCodes, crossOpOfCode? entry.2 = some entry.1 := by decide +kernel
  unfold crossOpCode effectiveOperator
  cases h : crossOpCodes.lookup operator with
  | none => exact ht ("OFF", 0) List.mem_cons_self
  | some code => exact ht (operator, code) (mem_of_lookup h)

theorem ruleModeOfCode_ruleModeCode {mode : String} (h : mode ∈ ruleModes) :
    ruleModeOfCode? (ruleModeCode (some mode)) = some mode := by
  have ht : ∀ mode ∈ ruleModes, ruleModeOfCode? (ruleModeCode (some mode)) = some mode := by
    decide +kernel
  exact ht mode h

/-- The signal of a document at a position of one of its trees. -/
def StrategyDocument.signal? (d : StrategyDocument) (list : SignalList) (root : Nat)
    (p : List Nat) : Option SignalNode :=
  (d.signals list)[root]?.bind fun n => n.subtree? p

/-- The compiled signal at a position, counted in the same way. -/
def compiledSignal? (signals : List CompiledSignal) (root : Nat) (p : List Nat) :
    Option CompiledSignal :=
  signals[root]?.bind fun s => s.subtree? p

/-- A parametric signal of a document that passes the check, with what it is compiled to. -/
structure BuiltRule (catalog : Catalog) (d : StrategyDocument) (m : SignalNode)
    (t : CompiledSignal) : Prop where
  passed : d.problems catalog = .ok []
  placed : ∃ list signals root p, compileSignals catalog (d.signals list) = .ok signals ∧
    d.signal? list root p = some m ∧ compiledSignal? signals root p = some t
  parametric : ∃ c, catalog.lookup m.catalogId = some c ∧ c.isParametric

namespace BuiltRule

variable {catalog : Catalog}

/-- Each signal is found where it was. -/
theorem exists_of_compiled {d : StrategyDocument} {list : SignalList}
    {signals : List CompiledSignal} {root : Nat} {p : List Nat} {m : SignalNode} {c : Capability}
    (hv : d.problems catalog = .ok []) (hc : compileSignals catalog (d.signals list) = .ok signals)
    (hm : d.signal? list root p = some m) (hl : catalog.lookup m.catalogId = some c)
    (hp : c.isParametric) :
    ∃ t, compiledSignal? signals root p = some t ∧ BuiltRule catalog d m t := by
  obtain ⟨n, hn, hs⟩ := Option.bind_eq_some_iff.1 hm
  obtain ⟨s, hr, hs'⟩ := compileSignals_getElem? hc hn
  obtain ⟨-, -, t, -, -, ht, -⟩ := SignalNode.compile_subtree hs' hs
  have hf : compiledSignal? signals root p = some t :=
    Option.bind_eq_some_iff.2 ⟨s, hr, ht⟩
  exact ⟨t, hf, hv, ⟨list, signals, root, p, hc, hm, hf⟩, c, hl, hp⟩

variable {d : StrategyDocument} {m : SignalNode} {t : CompiledSignal}

theorem rule_eq (h : BuiltRule catalog d m t) : t.rule = m.rule.compiled := by
  obtain ⟨-, ⟨list, signals, root, p, hc, hm, ht⟩, c, hl, hp⟩ := h
  obtain ⟨n, hn, hs⟩ := Option.bind_eq_some_iff.1 hm
  obtain ⟨s, hr, hs'⟩ := compileSignals_getElem? hc hn
  obtain ⟨c', own, t', hl', ho, ht', he⟩ := SignalNode.compile_subtree hs' hs
  cases hl.symm.trans hl'
  have htt : t = t' := by
    rw [compiledSignal?, hr, Option.bind_some, ht', Option.some.injEq] at ht
    exact ht.symm
  rw [htt, he]
  exact (Capability.rule_of_compiled ho).trans (if_pos hp)

theorem complete (h : BuiltRule catalog d m t) :
    (∃ mode ∈ ruleModes, m.rule.mode1 = some mode) ∧
      ∃ operator, operator ≠ "" ∧ m.rule.crossOp = some operator := by
  obtain ⟨hv, ⟨list, signals, root, p, -, hm, -⟩, c, hl, hp⟩ := h
  obtain ⟨n, hn, hs⟩ := Option.bind_eq_some_iff.1 hm
  obtain ⟨-, -, hf⟩ := StrategyDocument.passed hv
  obtain ⟨c', hl', hd⟩ := SignalNode.passed_at (hf list n (List.mem_of_getElem? hn)) hs
  cases hl.symm.trans hl'
  obtain ⟨hm, -, ho⟩ := RuleFields.complete_of_passed ((Capability.passed_iff.1 hd).2.2 hp)
  refine ⟨?_, ho⟩
  rcases hm with hm | hm
  · exact ⟨"Signal", by decide, hm⟩
  · exact ⟨"Value", by decide, hm⟩

theorem decoded (h : BuiltRule catalog d m t) :
    ∃ mode operator, m.rule.mode1 = some mode ∧ m.rule.crossOp = some operator ∧
      t.rule.mode1.bind ruleModeOfCode? = some mode ∧
      t.rule.crossOp.bind crossOpOfCode? = some (effectiveOperator operator) := by
  obtain ⟨⟨mode, hmem, hm⟩, operator, hne, ho⟩ := h.complete
  refine ⟨mode, operator, hm, ho, ?_, ?_⟩
  · rw [h.rule_eq, RuleFields.compiled, hm]
    exact ruleModeOfCode_ruleModeCode hmem
  · rw [h.rule_eq, RuleFields.compiled, ho, given?_of_ne hne]
    exact crossOpOfCode_crossOpCode operator

end BuiltRule

/-- At every position of a tree a rule keeps its mode, and its operator as far as that has a code:
one that has none is run as the default one. Rules that differ in more than such operators are
compiled to different fields. -/
theorem rules_keep_mode_and_operator (catalog : Catalog) :
    (∀ d list signals root p m c, d.problems catalog = .ok [] →
      compileSignals catalog (d.signals list) = .ok signals →
      d.signal? list root p = some m → catalog.lookup m.catalogId = some c → c.isParametric →
        ∃ t, compiledSignal? signals root p = some t ∧ BuiltRule catalog d m t) ∧
    (∀ d m t, BuiltRule catalog d m t →
      ∃ mode operator, m.rule.mode1 = some mode ∧ m.rule.crossOp = some operator ∧
        t.rule.mode1.bind ruleModeOfCode? = some mode ∧
        t.rule.crossOp.bind crossOpOfCode? = some (effectiveOperator operator)) ∧
    ∀ d d' m m' t t', BuiltRule catalog d m t → BuiltRule catalog d' m' t' →
      (m.rule.mode1 ≠ m'.rule.mode1 ∨
        m.rule.crossOp.map effectiveOperator ≠ m'.rule.crossOp.map effectiveOperator) →
          t.rule ≠ t'.rule := by
  refine ⟨?_, ?_, ?_⟩
  · intro d list signals root p m c
    exact BuiltRule.exists_of_compiled
  · intro d m t
    exact BuiltRule.decoded
  intro d d' m m' t t' h h' hne he
  obtain ⟨mode, operator, hm, ho, hmd, hod⟩ := h.decoded
  obtain ⟨mode', operator', hm', ho', hmd', hod'⟩ := h'.decoded
  rw [he] at hmd hod
  rw [hm, hm', ho, ho', Option.map_some, Option.map_some] at hne
  rcases hne with hne | hne
  · exact hne (hmd.symm.trans hmd')
  · exact hne (hod.symm.trans hod')

/-- A rule inside a rule. -/
theorem inner_rule_keeps_mode_and_operator :
    let d := StrategyDocument.single
      { SignalNode.comparison "AND" (.int 0) with
        children := [.comparison "XOR" (.float .nan), { catalogId := "raw.open" }] }
    d.problems .builtIn = .ok [] ∧
      ∃ signals, compileSignals .builtIn (d.signals .entry) = .ok signals ∧
        ∃ t, compiledSignal? signals 0 [0] = some t ∧
          t.rule.mode1.bind ruleModeOfCode? = some "Signal" ∧
          t.rule.crossOp.bind crossOpOfCode? = some "XOR" := by
  intro d
  have hv : d.problems .builtIn = .ok [] := by decide +kernel
  have hb : Succeeds (compileSignals .builtIn (d.signals .entry)) := by
    cases h : compileSignals .builtIn (d.signals .entry) with
    | ok signals => exact succeeds_ok signals
    | error fault =>
      have he : (compileSignals .builtIn (d.signals .entry)).toOption.isSome := by decide +kernel
      rw [h] at he
      cases he
  obtain ⟨signals, hc⟩ := hb
  have hl : Catalog.builtIn.lookup "parametric" = some BuiltIn.parametric := by decide +kernel
  obtain ⟨he, hd, -⟩ := rules_keep_mode_and_operator .builtIn
  obtain ⟨t, ht, hr⟩ := he d .entry signals 0 [0] _ _ hv hc rfl hl rfl
  obtain ⟨mode, operator, hm, ho, hmd, hod⟩ := hd d _ t hr
  cases hm
  cases ho
  exact ⟨hv, signals, hc, t, ht, hmd, hod⟩

/-- An operator without a code passes the check, but it is not what is run. -/
theorem unknown_operator_not_kept :
    let rules operator := (compileSignals .builtIn
      ((StrategyDocument.single (.comparison operator (.int 0))).signals .entry)).toOption.map
        fun signals => signals.map (·.rule)
    (StrategyDocument.single (.comparison "NAND" (.int 0))).problems .builtIn = .ok [] ∧
      (StrategyDocument.single (.comparison "OFF" (.int 0))).problems .builtIn = .ok [] ∧
      (rules "NAND").map (·.map fun rule => rule.crossOp.bind crossOpOfCode?) =
        some [some "OFF"] ∧
      rules "NAND" = rules "OFF" := by
  decide +kernel

end TradingSignals
