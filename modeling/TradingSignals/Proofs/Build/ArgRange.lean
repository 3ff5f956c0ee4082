import TradingSignals.Proofs.Build.Delivery
import TradingSignals.Proofs.Number.Place
import TradingSignals.Proofs.Validation.Totality

namespace TradingSignals

/-- At most as great as another double; not-a-number is not comparable. -/
def Binary64.atMost (x y : Binary64) : Bool := x.place.lt y.place || x.same y

/-- What is not below a number is at least it, unless it is no number. -/
theorem Binary64.atMost_of_not_lt {x y : Binary64} (h : ¬y.place.lt x.place) (hx : x.isFinite)
    (hy : y ≠ .nan) : x.atMost y := by
  apply Place.atMost_of_not_lt h
  · intro hp
    rw [place_eq_nowhere_iff.1 hp] at hx
    cases hx
  · exact mt place_eq_nowhere_iff.1 hy

theorem Binary64.isFinite_of_between {x y z : Binary64} (hx : x.isFinite) (hz : z.isFinite)
    (hl : x.atMost y) (hh : y.atMost z) : y.isFinite := by
  unfold atMost same at hl hh
  cases y with
  | nan => cases x <;> simp_all [place, Place.lt, Place.same]
  | infinite negative =>
    cases negative
    · cases z <;> simp_all [place, Place.lt, Place.same, isFinite]
    · cases x <;> simp_all [place, Place.lt, Place.same, isFinite]
  | finite negative units fits => rfl

/-- A record whose value is a number in its range. -/
def CompiledArg.InRange (r : CompiledArg) : Prop :=
  r.value.isFinite ∧ r.min.atMost r.value ∧ r.value.atMost r.max

instance (r : CompiledArg) : Decidable r.InRange :=
  inferInstanceAs (Decidable (_ ∧ _ ∧ _))

namespace ArgSpec

/-- A value keeps the bounds that are declared. -/
structure Keeps (spec : ArgSpec) (x : Binary64) : Prop where
  min : ∀ bound, spec.min = some bound → ¬x.place.lt bound.place
  max : ∀ bound, spec.max = some bound → ¬bound.place.lt x.place

theorem not_broken_of_passed {broken : Number → Bool} {defect : Binary64 → Defect}
    {bound : Option Number} (h : boundDefects broken defect bound = .ok []) :
    ∀ b, bound = some b → ¬broken b := by
  intro b hb hbroken
  rw [hb, boundDefects, if_pos hbroken] at h
  obtain ⟨x, -, hx⟩ := map_eq_ok_iff.1 h
  cases hx

theorem keeps_of_passed {spec : ArgSpec} {args : List (String × Scalar)} {v : Scalar}
    {x : Binary64} (h : spec.defects args = .ok []) (ho : spec.optional = false)
    (hk : spec.kind = .number) (hv : args.lookup spec.key = some v) (hx : v.toFloat = .ok x) :
    spec.Keeps x := by
  have hd : spec.valueDefects v = .ok [] := by simpa [defects, ho, hv, hk] using h
  unfold valueDefects at hd
  cases hn : v.number? with
  | none =>
    rw [hn] at hd
    cases hd
  | some n =>
    rw [hn] at hd
    obtain ⟨y, hy, hd⟩ := bind_eq_ok_iff.1 hd
    cases hy.symm.trans ((Scalar.toFloat_of_number hn).symm.trans hx)
    obtain ⟨hl, hh⟩ := (append_eq_ok_nil_iff fun _ _ => List.append_eq_nil_iff).1 hd
    exact ⟨not_broken_of_passed hl, not_broken_of_passed hh⟩

end ArgSpec

/-- Every record is that of a declared argument, and its value keeps the bounds that are declared
unless the argument is optional or no number. -/
theorem StrategyDocument.record_of_built {catalog : Catalog} {d : StrategyDocument}
    (h : (d.build catalog).status = "success") {list : SignalList}
    {signals : List CompiledSignal} (hs : (d.build catalog).signals list = some signals)
    {root : Nat} {p : List Nat} {t : CompiledSignal}
    (ht : compiledSignal? signals root p = some t) {r : CompiledArg} (hr : r ∈ t.args.getD []) :
    ∃ m c spec, d.signal? list root p = some m ∧ catalog.lookup m.catalogId = some c ∧
      spec ∈ c.requiredArgs ∧ spec.RecordedAs m.args r ∧
        (spec.optional = false → spec.kind = .number → spec.Keeps r.value) := by
  obtain ⟨signals', hs', -, hrel⟩ := built_rel h list
  cases hs.symm.trans hs'
  obtain ⟨m, hm, c, hl, hd, hc⟩ := exists_of_rel_right (hrel root p) ht
  have hrec := (SignalNode.delivered hl hd hc).records
  obtain ⟨spec, hspec, hra⟩ := exists_mem_of_forall₂ hrec hr
  have hmem := (List.mem_filter.1 hspec).1
  refine ⟨m, c, spec, hm, hl, hmem, hra, ?_⟩
  intro ho hk
  obtain ⟨v, hv, hx⟩ := hra.given
  exact ArgSpec.keeps_of_passed ((Capability.passed_iff.1 hd).1 spec hmem) ho hk hv hx

/-- The arguments of the built-in signals have no upper bound. Those of indicators must be at least
one, those of rules have no lower bound either. -/
theorem builtIn_specs {c : Capability} (hc : c ∈ Catalog.builtIn.toList) {spec : ArgSpec}
    (hs : spec ∈ c.requiredArgs) :
    spec.max = none ∧
      ((spec.key ∈ ["Length", "Depth"] ∧ spec.min = some (.int 1) ∧ spec.optional = false ∧
          spec.kind = .number) ∨
        (spec.key ∈ ["Rule1 Base Offset", "Rule1 Second Offset", "Rule1 Value"] ∧
          spec.min = none)) := by
  have ht : ∀ c ∈ Catalog.builtIn.toList, ∀ spec ∈ c.requiredArgs, spec.max = none ∧
      ((spec.key ∈ ["Length", "Depth"] ∧ spec.min = some (.int 1) ∧ spec.optional = false ∧
          spec.kind = .number) ∨
        (spec.key ∈ ["Rule1 Base Offset", "Rule1 Second Offset", "Rule1 Value"] ∧
          spec.min = none)) := by
    decide +kernel
  exact ht c hc spec hs

/-- Records keep declared bounds and no others. The length of an indicator, for which one is the
declared minimum, is in range exactly when it is at most the greatest value; the values of a rule,
for which nothing is declared, may lie anywhere. -/
theorem records_keep_declared_bounds {d : StrategyDocument}
    (h : (d.build .builtIn).status = "success") {list : SignalList}
    {signals : List CompiledSignal} (hs : (d.build .builtIn).signals list = some signals)
    {root : Nat} {p : List Nat} {t : CompiledSignal}
    (ht : compiledSignal? signals root p = some t) {r : CompiledArg} (hr : r ∈ t.args.getD []) :
    r.max = .ofInt 1000000 ∧
      ((r.key ∈ ["Length", "Depth"] ∧ r.min = .ofInt 1 ∧ (r.InRange ↔ r.value.atMost r.max)) ∨
        (r.key ∈ ["Rule1 Base Offset", "Rule1 Second Offset", "Rule1 Value"] ∧
          r.min = .ofInt 0)) := by
  obtain ⟨m, c, spec, -, hl, hspec, hra, hk⟩ := StrategyDocument.record_of_built h hs ht hr
  obtain ⟨hmax, hcases⟩ := builtIn_specs (Catalog.mem_toList_of_lookup hl) hspec
  have hh : r.max = .ofInt 1000000 := by
    rw [hra.max, hmax]
    rfl
  refine ⟨hh, ?_⟩
  rcases hcases with ⟨hkey, hmin, ho, hnum⟩ | ⟨hkey, hmin⟩
  · have hl : r.min = .ofInt 1 := by
      rw [hra.min, hmin]
      rfl
    refine Or.inl ⟨hra.key ▸ hkey, hl, ?_⟩
    constructor
    · intro hin
      exact hin.2.2
    · intro hm
      have hlow : r.min.isFinite := by
        rw [hl]
        decide +kernel
      have hhigh : r.max.isFinite := by
        rw [hh]
        decide +kernel
      have hn : r.value ≠ .nan := by
        intro hn
        rw [hn, hh] at hm
        cases hm
      have hplace : r.min.place = (Number.int 1).place := by
        rw [hl]
        decide +kernel
      have hle : r.min.atMost r.value := by
        apply Binary64.atMost_of_not_lt _ hlow hn
        rw [hplace]
        exact (hk ho hnum).min (.int 1) hmin
      exact ⟨Binary64.isFinite_of_between hlow hhigh hle hm, hle, hm⟩
  · refine Or.inr ⟨hra.key ▸ hkey, ?_⟩
    rw [hra.min, hmin]
    rfl

/-- An average inside a rule whose value is infinite. -/
theorem inner_average_in_range :
    let d := StrategyDocument.single
      { SignalNode.comparison "OFF" (.float (.infinite true)) with
        children := [.average (.int 50), { catalogId := "raw.open" }] }
    (d.build .builtIn).status = "success" ∧
      ∃ signals, (d.build .builtIn).signals .entry = some signals ∧
        ∃ t, compiledSignal? signals 0 [0] = some t ∧ ∃ r ∈ t.args.getD [], r.InRange := by
  intro d
  have hb : (d.build .builtIn).status = "success" := by decide +kernel
  have hv : ((d.build .builtIn).signals .entry).any fun signals =>
      (compiledSignal? signals 0 [0]).any fun t => (t.args.getD []).any fun r =>
        decide (r.key = "Length") && r.value.atMost r.max := by
    decide +kernel
  simp only [Option.any_eq_true, List.any_eq_true, Bool.and_eq_true, decide_eq_true_eq] at hv
  obtain ⟨signals, hs, t, ht, r, hr, hkey, hm⟩ := hv
  obtain ⟨-, hin | hin⟩ := records_keep_declared_bounds hb hs ht hr
  · exact ⟨hb, signals, hs, t, ht, r, hr, hin.2.2.2 hm⟩
  · rw [hkey] at hin
    exact absurd hin.1 (by decide)

/-- Whether a signal is built with a record whose value is out of its range. -/
def SignalNode.BuiltOutOfRange (n : SignalNode) : Prop :=
  ((StrategyDocument.single n).build .builtIn).status = "success" ∧
    ∃ signals, ((StrategyDocument.single n).build .builtIn).signals .entry = some signals ∧
      ∃ t, compiledSignal? signals 0 [] = some t ∧ ∃ r ∈ t.args.getD [], ¬r.InRange

theorem SignalNode.builtOutOfRange_iff {n : SignalNode} : n.BuiltOutOfRange ↔
    ((StrategyDocument.single n).build .builtIn).status = "success" ∧
      (((StrategyDocument.single n).build .builtIn).signals .entry).any fun signals =>
        (compiledSignal? signals 0 []).any fun t =>
          (t.args.getD []).any fun r => !decide r.InRange := by
  simp only [Option.any_eq_true, List.any_eq_true, Bool.not_eq_true', decide_eq_false_iff_not,
    BuiltOutOfRange]

/-- No greatest length is declared, and for the value of a rule nothing is. -/
theorem out_of_range_values_built :
    (SignalNode.average (.int 2000000)).BuiltOutOfRange ∧
      (SignalNode.comparison "OFF" (.int (-5))).BuiltOutOfRange ∧
      (SignalNode.comparison "OFF" (.float (.infinite false))).BuiltOutOfRange := by
  simp only [SignalNode.builtOutOfRange_iff]
  decide +kernel

end TradingSignals
