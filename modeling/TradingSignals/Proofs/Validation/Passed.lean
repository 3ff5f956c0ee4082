import TradingSignals.Proofs.Strategy.Position
import TradingSignals.Proofs.Success
import TradingSignals.Proofs.Validation.Lacks
import TradingSignals.Validation.Finding

namespace TradingSignals

/-- Two searches in a row find nothing when neither does. -/
theorem append_eq_ok_nil_iff {ε α β γ : Type} {r : Except ε (List α)} {r' : Except ε (List β)}
    {f : List α → List β → List γ} (hf : ∀ as bs, f as bs = [] ↔ as = [] ∧ bs = []) :
    (do
      let as ← r
      let bs ← r'
      return f as bs) = Except.ok [] ↔ r = .ok [] ∧ r' = .ok [] := by
  rw [bind_eq_ok_iff]
  constructor
  · intro h
    obtain ⟨as, ha, h⟩ := h
    obtain ⟨bs, hb, h⟩ := bind_eq_ok_iff.1 h
    obtain ⟨rfl, rfl⟩ := (hf as bs).1 (Except.ok.inj h)
    exact ⟨ha, hb⟩
  · intro h
    obtain ⟨ha, hb⟩ := h
    exact ⟨[], ha, bind_eq_ok_iff.2 ⟨[], hb, congrArg Except.ok ((hf [] []).2 ⟨rfl, rfl⟩)⟩⟩

theorem gather_eq_ok_nil_iff {ε α β : Type} {f : α → Except ε (List β)} {l : List α} :
    gather f l = .ok [] ↔ ∀ a ∈ l, f a = .ok [] := by
  induction l with
  | nil => exact iff_of_true rfl fun _ h => nomatch h
  | cons a l ih =>
    rw [List.forall_mem_cons, ← ih]
    exact append_eq_ok_nil_iff fun _ _ => List.append_eq_nil_iff

/-- A declared argument without defects is there, and it is a number where one is asked for. -/
theorem ArgSpec.converts_of_passed {spec : ArgSpec} {args : List (String × Scalar)}
    (h : spec.defects args = .ok []) (ho : spec.optional = false) (hk : spec.kind = .number) :
    ∃ v, args.lookup spec.key = some v ∧ v.Converts := by
  unfold defects at h
  rw [ho] at h
  cases hl : args.lookup spec.key with
  | none =>
    rw [hl] at h
    cases h
  | some v =>
    rw [hl] at h
    refine ⟨v, rfl, Scalar.toFloat_succeeds_iff.1 ?_⟩
    have hv : spec.valueDefects v = .ok [] := by simpa [hk] using h
    unfold valueDefects at hv
    cases hn : v.number? with
    | none =>
      rw [hn] at hv
      cases hv
    | some n =>
      rw [hn] at hv
      obtain ⟨x, hx, -⟩ := bind_eq_ok_iff.1 hv
      exact ⟨x, (Scalar.toFloat_of_number hn).trans hx⟩

/-- A rule without defects has one of the two modes, and its operators are not empty. -/
theorem RuleFields.complete_of_passed {r : RuleFields} (h : r.defects = []) :
    (r.mode1 = some "Signal" ∨ r.mode1 = some "Value") ∧
      (∃ operation, operation ≠ "" ∧ r.operation1 = some operation) ∧
      ∃ operator, operator ≠ "" ∧ r.crossOp = some operator := by
  have hs : ∀ {field : Option String}, field ∉ [none, some ""] → ∃ s, s ≠ "" ∧ field = some s := by
    intro field hf
    cases field with
    | none => exact absurd List.mem_cons_self hf
    | some s =>
      have hne : s ≠ "" := by
        intro he
        subst he
        exact hf (by simp)
      exact ⟨s, hne, rfl⟩
  rw [defects_eq_lacks] at h
  simp only [lacks, reportIf, List.append_eq_nil_iff, ite_eq_right_iff, List.cons_ne_nil,
    imp_false, Classical.not_not] at h
  obtain ⟨⟨⟨hb, hm⟩, ho⟩, hc⟩ := h
  refine ⟨?_, hs ho, hs hc⟩
  simp only [List.mem_cons, List.not_mem_nil, or_false] at hb hm
  rcases hm with hm | hm | hm | hm
  · exact absurd (Or.inl hm) hb
  · exact absurd (Or.inr hm) hb
  · exact Or.inl hm
  · exact Or.inr hm

theorem Capability.passed_iff {c : Capability} {args : List (String × Scalar)} {children : Nat}
    {rule : RuleFields} :
    c.defects args children rule = .ok [] ↔
      (∀ spec ∈ c.requiredArgs, spec.defects args = .ok []) ∧
        c.requiredChildren ≤ children ∧ (c.isParametric → rule.defects = []) := by
  rw [← gather_eq_ok_nil_iff, defects, bind_eq_ok_iff]
  constructor
  · intro h
    obtain ⟨own, ha, h⟩ := h
    have hn := Except.ok.inj h
    simp only [List.append_eq_nil_iff, ite_eq_right_iff, List.cons_ne_nil, imp_false,
      Int.not_lt] at hn
    obtain ⟨⟨rfl, hc⟩, hr⟩ := hn
    exact ⟨ha, hc, hr⟩
  · intro h
    obtain ⟨ha, hc, hr⟩ := h
    refine ⟨[], ha, congrArg Except.ok ?_⟩
    rw [if_neg (Int.not_lt.2 hc), List.nil_append, List.nil_append]
    exact ite_eq_right_iff.2 hr

namespace SignalNode

variable {catalog : Catalog}

theorem childFindings_eq_ok_nil_iff {nodes : List SignalNode} {i : Nat} :
    childFindings catalog i nodes = .ok [] ↔ ∀ n ∈ nodes, n.findings catalog = .ok [] := by
  induction nodes generalizing i with
  | nil => exact iff_of_true rfl fun _ h => nomatch h
  | cons n nodes ih =>
    rw [List.forall_mem_cons, ← ih, childFindings]
    apply append_eq_ok_nil_iff
    intro first rest
    rw [List.append_eq_nil_iff, List.map_eq_nil_iff]

theorem findings_eq_ok_nil_iff {id : String} {args : List (String × Scalar)}
    {children : List SignalNode} {rule : RuleFields} :
    (mk id args children rule).findings catalog = .ok [] ↔
      ∃ c, catalog.lookup id = some c ∧ c.defects args children.length rule = .ok [] ∧
        ∀ n ∈ children, n.findings catalog = .ok [] := by
  rw [findings]
  cases hl : catalog.lookup id with
  | none => exact ⟨nofun, fun ⟨_, h, _⟩ => nomatch h⟩
  | some c =>
    simp only [Option.some.injEq, exists_eq_left']
    rw [← childFindings_eq_ok_nil_iff (i := 0)]
    apply append_eq_ok_nil_iff
    intro own below
    rw [List.append_eq_nil_iff, List.map_eq_nil_iff]

/-- In a tree without defects every id is known, and nothing is wrong with any signal. -/
theorem passed_at {n m : SignalNode} {p : List Nat} (h : n.findings catalog = .ok [])
    (hm : n.subtree? p = some m) :
    ∃ c, catalog.lookup m.catalogId = some c ∧
      c.defects m.args m.children.length m.rule = .ok [] := by
  induction p generalizing n with
  | nil =>
    obtain ⟨id, args, children, rule⟩ := n
    cases hm
    obtain ⟨c, hc, hd, -⟩ := findings_eq_ok_nil_iff.1 h
    exact ⟨c, hc, hd⟩
  | cons i p ih =>
    obtain ⟨id, args, children, rule⟩ := n
    obtain ⟨k, hk, hm⟩ := subtree?_cons_eq_some.1 hm
    obtain ⟨c, -, -, hb⟩ := findings_eq_ok_nil_iff.1 h
    exact ih (hb k (List.mem_of_getElem? hk)) hm

end SignalNode

/-- A document without problems has the current version and a strategy, all of whose trees are
without defects. -/
theorem StrategyDocument.passed {catalog : Catalog} {d : StrategyDocument}
    (h : d.problems catalog = .ok []) :
    d.version = currentVersion ∧ d.strategy.isSome ∧
      ∀ list, ∀ n ∈ d.signals list, n.findings catalog = .ok [] := by
  have hn : ∀ {list : SignalList} {n : SignalNode},
      n.problems catalog list = .ok [] → n.findings catalog = .ok [] := by
    intro list n hp
    obtain ⟨fs, hf, he⟩ := map_eq_ok_iff.1 hp
    rw [hf, List.map_eq_nil_iff.1 he]
  unfold problems at h
  cases hs : d.strategy with
  | none =>
    rw [hs] at h
    exact absurd (Except.ok.inj h) (List.append_ne_nil_of_right_ne_nil _ nofun)
  | some s =>
    rw [hs] at h
    obtain ⟨entry, he, h⟩ := bind_eq_ok_iff.1 h
    obtain ⟨exit, hx, h⟩ := bind_eq_ok_iff.1 h
    have hnil := Except.ok.inj h
    simp only [List.append_eq_nil_iff, ite_eq_left_iff, List.cons_ne_nil, imp_false,
      Classical.not_not] at hnil
    obtain ⟨⟨hv, rfl⟩, rfl⟩ := hnil
    refine ⟨hv, rfl, ?_⟩
    intro list n hm
    rw [signals, hs] at hm
    cases list with
    | entry => exact hn (gather_eq_ok_nil_iff.1 he n hm)
    | exit => exact hn (gather_eq_ok_nil_iff.1 hx n hm)

end TradingSignals
