import TradingSignals.Proofs.Build.RuleCodes

namespace TradingSignals

/-- What the compiled form of a signal holds of it. -/
structure Delivered (c : Capability) (m : SignalNode) (t : CompiledSignal) : Prop where
  children : (t.children.getD []).length = m.children.length
  enough : c.requiredChildren ≤ m.children.length
  records : List.Forall₂ (ArgSpec.RecordedAs m.args)
    (c.requiredArgs.filter (·.isGiven m.args)) (t.args.getD [])
  mandatory : ∀ spec ∈ c.requiredArgs, spec.optional = false → spec.isGiven m.args
  operation : c.isParametric → ∃ operation, operation ≠ "" ∧
    m.rule.operation1 = some operation ∧ t.rule.operation1 = some operation
  crossOp : c.isParametric → ∃ operator, operator ≠ "" ∧
    m.rule.crossOp = some operator ∧ t.rule.crossOp = some (crossOpCode operator)
  signalMode : c.isParametric → (t.rule.mode1 = some 0 ↔ m.rule.mode1 = some "Signal")
  valueMode : c.isParametric → (t.rule.mode1 = some 1 ↔ m.rule.mode1 = some "Value")

theorem ArgSpec.isGiven_of_passed {spec : ArgSpec} {args : List (String × Scalar)}
    (h : spec.defects args = .ok []) (ho : spec.optional = false) : spec.isGiven args := by
  unfold defects at h
  rw [ho] at h
  unfold isGiven
  cases hl : args.lookup spec.key with
  | none =>
    rw [hl] at h
    cases h
  | some v => rfl

/-- The codes of a complete rule tell its mode, and no default is put in. -/
theorem RuleFields.compiled_of_complete {r : RuleFields} (h : r.defects = []) :
    (∃ operation, operation ≠ "" ∧ r.operation1 = some operation ∧
      r.compiled.operation1 = some operation) ∧
    (∃ operator, operator ≠ "" ∧ r.crossOp = some operator ∧
      r.compiled.crossOp = some (crossOpCode operator)) ∧
    (r.compiled.mode1 = some 0 ↔ r.mode1 = some "Signal") ∧
    (r.compiled.mode1 = some 1 ↔ r.mode1 = some "Value") := by
  obtain ⟨hm, ⟨operation, ho, he⟩, operator, hc, he'⟩ := complete_of_passed h
  have hop : r.compiled.operation1 = some operation := by
    rw [compiled, he, given?_of_ne ho]
    rfl
  have hcr : r.compiled.crossOp = some (crossOpCode operator) := by
    rw [compiled, he', given?_of_ne hc]
    rfl
  refine ⟨⟨operation, ho, he, hop⟩, ⟨operator, hc, he', hcr⟩, ?_⟩
  rcases hm with hm | hm
  · have hs : r.compiled.mode1 = some 0 := by
      rw [compiled, hm]
      rfl
    rw [hs, hm]
    decide
  · have hs : r.compiled.mode1 = some 1 := by
      rw [compiled, hm]
      rfl
    rw [hs, hm]
    decide

theorem SignalNode.delivered {catalog : Catalog} {m : SignalNode} {c : Capability}
    {t : CompiledSignal} (hl : catalog.lookup m.catalogId = some c)
    (hd : c.defects m.args m.children.length m.rule = .ok [])
    (h : m.compile catalog = .ok t) : Delivered c m t := by
  obtain ⟨id, args, children, rule⟩ := m
  obtain ⟨ha, hn, hr⟩ := Capability.passed_iff.1 hd
  have hb := compileSignals_of_compile h
  obtain ⟨c', own, below, hl', ho, -, rfl⟩ := compile_eq_ok_iff.1 h
  cases hl.symm.trans hl'
  have hrec := Capability.records_of_compiled ho
  have hrule : c.isParametric → own.rule = rule.compiled := fun hp =>
    (Capability.rule_of_compiled ho).trans (if_pos hp)
  have hcodes := fun hp => RuleFields.compiled_of_complete (hr hp)
  exact {
    children := (compileSignals_eq_ok_iff.1 hb).length_eq.symm
    enough := hn
    records := hrec
    mandatory := fun spec hs => ArgSpec.isGiven_of_passed (ha spec hs)
    operation := fun hp => hrule hp ▸ (hcodes hp).1
    crossOp := fun hp => hrule hp ▸ (hcodes hp).2.1
    signalMode := fun hp => hrule hp ▸ (hcodes hp).2.2.1
    valueMode := fun hp => hrule hp ▸ (hcodes hp).2.2.2
  }

namespace StrategyDocument

variable {catalog : Catalog} {d : StrategyDocument}

/-- A document that is built has passed the check, and both its lists are compiled. -/
theorem compiled_of_built (h : (d.build catalog).status = "success") :
    d.problems catalog = .ok [] ∧ ∀ list, ∃ signals,
      (d.build catalog).signals list = some signals ∧
        compileSignals catalog (d.signals list) = .ok signals := by
  unfold build at h ⊢
  cases hq : d.strategy.bind fun s => given? s.clarificationRequest with
  | some question => simp [hq, BuildOutcome.status] at h
  | none =>
    rw [hq] at h
    cases hv : d.problems catalog with
    | error fault => simp [hv, BuildOutcome.status] at h
    | ok problems =>
      cases problems with
      | cons p problems => simp [hv, BuildOutcome.status] at h
      | nil =>
        cases hc : (d.strategy.getD {}).compile catalog with
        | error fault => simp [hv, hc, BuildOutcome.status] at h
        | ok outcome =>
          obtain ⟨entry, exit, he, hx, rfl⟩ := Strategy.compile_eq_ok_iff.1 hc
          refine ⟨rfl, ?_⟩
          intro list
          have hl := signals_getD (d := d) list
          cases list with
          | entry => exact ⟨entry, rfl, hl ▸ he⟩
          | exit => exact ⟨exit, rfl, hl ▸ hx⟩

theorem signal?_rel {list : SignalList} {signals : List CompiledSignal}
    (h : compileSignals catalog (d.signals list) = .ok signals) (root : Nat) (p : List Nat) :
    Option.Rel (fun m t => m.compile catalog = .ok t) (d.signal? list root p)
      (compiledSignal? signals root p) := by
  have hr := rel_getElem? (compileSignals_eq_ok_iff.1 h) root
  unfold signal? compiledSignal?
  generalize (d.signals list)[root]? = n, signals[root]? = s at hr
  cases hr with
  | none => exact .none
  | some hc => exact SignalNode.compile_rel hc p

/-- The compiled lists have a signal wherever the document has one and nowhere else, and what it is
compiled from has passed the check. -/
theorem built_rel (h : (d.build catalog).status = "success") (list : SignalList) :
    ∃ signals, (d.build catalog).signals list = some signals ∧
      signals.length = (d.signals list).length ∧
      ∀ root p, Option.Rel
        (fun m t => ∃ c, catalog.lookup m.catalogId = some c ∧
          c.defects m.args m.children.length m.rule = .ok [] ∧ m.compile catalog = .ok t)
        (d.signal? list root p) (compiledSignal? signals root p) := by
  obtain ⟨hv, hs⟩ := compiled_of_built h
  obtain ⟨-, -, hf⟩ := passed hv
  obtain ⟨signals, hb, hc⟩ := hs list
  refine ⟨signals, hb, (compileSignals_eq_ok_iff.1 hc).length_eq.symm, ?_⟩
  intro root p
  apply rel_imp (signal?_rel hc root p)
  intro m t hm hmt
  obtain ⟨n, hn, hp⟩ := Option.bind_eq_some_iff.1 hm
  obtain ⟨c, hl, hd⟩ := SignalNode.passed_at (hf list n (List.mem_of_getElem? hn)) hp
  exact ⟨c, hl, hd, hmt⟩

/-- What is built has a signal for every signal of the document, in its place: with as many
children, at least those required; with a record for every argument that must be given; and with
the codes of its own rule. -/
theorem build_delivers (h : (d.build catalog).status = "success") (list : SignalList) :
    ∃ signals, (d.build catalog).signals list = some signals ∧
      signals.length = (d.signals list).length ∧
      ∀ root p, Option.Rel
        (fun m t => ∃ c, catalog.lookup m.catalogId = some c ∧ Delivered c m t)
        (d.signal? list root p) (compiledSignal? signals root p) := by
  obtain ⟨signals, hb, hn, hr⟩ := built_rel h list
  refine ⟨signals, hb, hn, ?_⟩
  intro root p
  apply rel_imp (hr root p)
  intro m t _ hm
  obtain ⟨c, hl, hd, hc⟩ := hm
  exact ⟨c, hl, SignalNode.delivered hl hd hc⟩

end StrategyDocument

/-- A rule inside a rule, with a value that is no number. -/
theorem inner_rule_delivered :
    let d := StrategyDocument.single
      { SignalNode.comparison "AND" (.int 0) with
        children := [.comparison "XOR" (.float .nan), { catalogId := "raw.open" }] }
    (d.build .builtIn).status = "success" ∧
      ∃ signals, (d.build .builtIn).signals .entry = some signals ∧ signals.length = 1 ∧
        ∃ t, compiledSignal? signals 0 [0] = some t ∧
          Delivered BuiltIn.parametric (.comparison "XOR" (.float .nan)) t := by
  intro d
  have hb : (d.build .builtIn).status = "success" := by decide +kernel
  obtain ⟨signals, hs, hn, hr⟩ := StrategyDocument.build_delivers hb .entry
  obtain ⟨t, ht, c, hl, hd⟩ := exists_of_rel (hr 0 [0]) rfl
  have hp : Catalog.builtIn.lookup "parametric" = some BuiltIn.parametric := by decide +kernel
  cases hp.symm.trans hl
  exact ⟨hb, signals, hs, hn, t, ht, hd⟩

end TradingSignals
