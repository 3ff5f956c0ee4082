import TradingSignals.Proofs.Catalog.Bounds
import TradingSignals.Proofs.Related
import TradingSignals.Proofs.Strategy.Position
import TradingSignals.Proofs.Success
import TradingSignals.Signal.Compilation

namespace TradingSignals

theorem recordBound_of_converts {name : String} {bound : Number} (h : bound.converts) :
    recordBound name bound = .ok bound.toBinary64 := by
  cases bound with
  | int v =>
    have hf : (Binary64.ofInt v).isFinite := h
    simp only [recordBound, Json.ofNumber, Decode.float, hf, or_true, if_true]
    rfl
  | float x => rfl

theorem recordBound_of_not_converts (name : String) {bound : Number} (h : ¬bound.converts) :
    ∃ faults, recordBound name bound = .faulty faults := by
  cases bound with
  | int v =>
    have hf : ¬(Binary64.ofInt v).isFinite := h
    simp only [recordBound, Json.ofNumber, Decode.float, hf, reduceCtorEq, or_self, if_false]
    exact ⟨_, rfl⟩
  | float x => exact absurd rfl h

namespace ArgSpec

/-- The bounds of a record are the declared ones or small numbers. -/
theorem boundsConvert_iff {spec : ArgSpec} :
    spec.BoundsConvert ↔
      (spec.min.getD (.int 0)).converts ∧ (spec.max.getD (.int 1000000)).converts := by
  have hl : (Number.int 0).converts := by decide +kernel
  have hh : (Number.int 1000000).converts := by decide +kernel
  unfold BoundsConvert bounds
  cases spec.min with
  | none => cases spec.max <;> simp [hl, hh]
  | some low => cases spec.max <;> simp [hh]

theorem record_succeeds_iff {spec : ArgSpec} {value : Binary64} :
    Succeeds ((spec.compiled value).toExcept.mapError CompileFault.record) ↔
      spec.BoundsConvert := by
  rw [succeeds_mapError_iff, boundsConvert_iff]
  unfold compiled
  generalize spec.min.getD (.int 0) = low
  generalize spec.max.getD (.int 1000000) = high
  by_cases hl : low.converts
  · by_cases hh : high.converts
    · rw [recordBound_of_converts hl, recordBound_of_converts hh]
      exact iff_of_true (succeeds_ok _) ⟨hl, hh⟩
    · obtain ⟨faults, hf⟩ := recordBound_of_not_converts "max" hh
      rw [recordBound_of_converts hl, hf]
      apply iff_of_false not_succeeds_error
      intro h
      exact hh h.2
  · obtain ⟨faults, hf⟩ := recordBound_of_not_converts "min" hl
    rw [hf]
    apply iff_of_false
    · cases recordBound "max" high with
      | ok x => exact not_succeeds_error
      | faulty more => exact not_succeeds_error
    · intro h
      exact hl h.1

end ArgSpec

theorem compileArgs_succeeds_iff {args : List (String × Scalar)} {specs : List ArgSpec} :
    Succeeds (compileArgs args specs) ↔ ∀ spec ∈ specs, ∀ v, args.lookup spec.key = some v →
      v.Converts ∧ spec.BoundsConvert := by
  induction specs with
  | nil => exact iff_of_true (succeeds_ok _) fun _ h => nomatch h
  | cons spec specs ih =>
    rw [List.forall_mem_cons, ← ih, compileArgs]
    cases args.lookup spec.key with
    | none => simp
    | some v =>
      have hs : (∀ w, some v = some w → w.Converts ∧ spec.BoundsConvert) ↔
          v.Converts ∧ spec.BoundsConvert := by
        simp
      have hv : Succeeds (v.toFloat.mapError CompileFault.conversion) ↔ v.Converts :=
        succeeds_mapError_iff.trans Scalar.toFloat_succeeds_iff
      rw [hs, and_assoc, ← hv]
      apply succeeds_bind_iff
      intro value _
      rw [← @ArgSpec.record_succeeds_iff spec value]
      apply succeeds_bind_iff
      intro record _
      exact succeeds_map_iff

/-- Arguments fail by a value that is no number or by a bound that does not fit. -/
theorem compileArgs_ne_unknown {args : List (String × Scalar)} {specs : List ArgSpec}
    {id : String} : compileArgs args specs ≠ .error (.unknownCapability id) := by
  induction specs with
  | nil => exact nofun
  | cons spec specs ih =>
    intro h
    rw [compileArgs] at h
    cases hl : args.lookup spec.key with
    | none =>
      rw [hl] at h
      exact ih h
    | some v =>
      rw [hl] at h
      rcases bind_eq_error_iff.1 h with h | ⟨value, -, h⟩
      · cases hv : v.toFloat with
        | ok x =>
          rw [hv] at h
          cases h
        | error fault =>
          rw [hv] at h
          cases h
      rcases bind_eq_error_iff.1 h with h | ⟨record, -, h⟩
      · cases hr : (spec.compiled value).toExcept with
        | ok x =>
          rw [hr] at h
          cases h
        | error fault =>
          rw [hr] at h
          cases h
      rcases bind_eq_error_iff.1 h with h | ⟨rest, -, h⟩
      · exact ih h
      · cases h

theorem Capability.compiled_succeeds_iff {c : Capability} {args : List (String × Scalar)}
    {rule : RuleFields} :
    Succeeds (c.compiled args rule) ↔ ∀ spec ∈ c.requiredArgs, ∀ v,
      args.lookup spec.key = some v → v.Converts ∧ spec.BoundsConvert :=
  succeeds_map_iff.trans compileArgs_succeeds_iff

/-- The compiled signal at a position, counted as in the tree it is compiled from. -/
def CompiledSignal.subtree? : CompiledSignal → List Nat → Option CompiledSignal
  | s, [] => some s
  | s, i :: p => (s.children.getD [])[i]?.bind fun t => t.subtree? p

/-- Compiling keeps the order and the number of the signals. -/
theorem compileSignals_eq_ok_iff {catalog : Catalog} {nodes : List SignalNode}
    {signals : List CompiledSignal} :
    compileSignals catalog nodes = .ok signals ↔
      List.Forall₂ (fun n s => n.compile catalog = .ok s) nodes signals := by
  induction nodes generalizing signals with
  | nil =>
    rw [List.forall₂_nil_left_iff]
    constructor
    · intro h
      exact (Except.ok.inj h).symm
    · intro h
      rw [h]
      rfl
  | cons n nodes ih =>
    rw [List.forall₂_cons_left_iff, compileSignals]
    constructor
    · intro h
      obtain ⟨first, hf, h⟩ := bind_eq_ok_iff.1 h
      obtain ⟨rest, hr, h⟩ := bind_eq_ok_iff.1 h
      exact ⟨first, rest, hf, ih.1 hr, (Except.ok.inj h).symm⟩
    · intro h
      obtain ⟨first, rest, hf, hr, rfl⟩ := h
      exact bind_eq_ok_iff.2 ⟨first, hf, bind_eq_ok_iff.2 ⟨rest, ih.2 hr, rfl⟩⟩

theorem compileSignals_getElem? {catalog : Catalog} {nodes : List SignalNode}
    {signals : List CompiledSignal} (h : compileSignals catalog nodes = .ok signals) {i : Nat}
    {n : SignalNode} (hn : nodes[i]? = some n) :
    ∃ s, signals[i]? = some s ∧ n.compile catalog = .ok s :=
  exists_of_rel (rel_getElem? (compileSignals_eq_ok_iff.1 h) i) hn

theorem compileSignals_succeeds_iff {catalog : Catalog} {nodes : List SignalNode} :
    Succeeds (compileSignals catalog nodes) ↔ ∀ n ∈ nodes, Succeeds (n.compile catalog) := by
  induction nodes with
  | nil => exact iff_of_true (succeeds_ok _) fun _ h => nomatch h
  | cons n nodes ih =>
    rw [List.forall_mem_cons, ← ih, compileSignals]
    exact succeeds_bind_iff fun first _ => succeeds_map_iff

theorem compileSignals_eq_unknown {catalog : Catalog} {nodes : List SignalNode} {id : String}
    (h : compileSignals catalog nodes = .error (.unknownCapability id)) :
    ∃ n ∈ nodes, n.compile catalog = .error (.unknownCapability id) := by
  induction nodes with
  | nil => cases h
  | cons n nodes ih =>
    rw [compileSignals] at h
    rcases bind_eq_error_iff.1 h with h | ⟨first, -, h⟩
    · exact ⟨n, List.mem_cons_self, h⟩
    rcases bind_eq_error_iff.1 h with h | ⟨rest, -, h⟩
    · obtain ⟨m, hm, h⟩ := ih h
      exact ⟨m, List.mem_cons_of_mem n hm, h⟩
    · cases h

namespace SignalNode

variable {catalog : Catalog}

/-- All ids are known, and all values that are given for declared arguments can be turned into
doubles, as can the bounds declared with them. -/
def Compilable (catalog : Catalog) (n : SignalNode) : Prop :=
  ∀ p m, n.subtree? p = some m → ∃ c, catalog.lookup m.catalogId = some c ∧
    ∀ spec ∈ c.requiredArgs, ∀ v, m.args.lookup spec.key = some v →
      v.Converts ∧ spec.BoundsConvert

section

variable {id : String} {args : List (String × Scalar)} {children : List SignalNode}
  {rule : RuleFields}

theorem compile_eq_ok_iff {s : CompiledSignal} :
    (mk id args children rule).compile catalog = .ok s ↔
      ∃ c own below, catalog.lookup id = some c ∧ c.compiled args rule = .ok own ∧
        compileSignals catalog children = .ok below ∧
        s = { own with children := if children.isEmpty then none else some below } := by
  rw [compile]
  cases hl : catalog.lookup id with
  | none => exact ⟨nofun, fun ⟨_, _, _, h, _⟩ => nomatch h⟩
  | some c =>
    constructor
    · intro h
      obtain ⟨own, ho, h⟩ := bind_eq_ok_iff.1 h
      obtain ⟨below, hb, h⟩ := bind_eq_ok_iff.1 h
      exact ⟨c, own, below, rfl, ho, hb, (Except.ok.inj h).symm⟩
    · intro h
      obtain ⟨d, own, below, hd, ho, hb, rfl⟩ := h
      cases hd
      exact bind_eq_ok_iff.2 ⟨own, ho, bind_eq_ok_iff.2 ⟨below, hb, rfl⟩⟩

theorem compileSignals_of_compile {s : CompiledSignal}
    (h : (mk id args children rule).compile catalog = .ok s) :
    compileSignals catalog children = .ok (s.children.getD []) := by
  obtain ⟨c, own, below, -, -, hb, rfl⟩ := compile_eq_ok_iff.1 h
  cases children with
  | nil => rfl
  | cons n nodes => exact hb

theorem compilable_iff :
    (mk id args children rule).Compilable catalog ↔
      (∃ c, catalog.lookup id = some c ∧ Succeeds (c.compiled args rule)) ∧
        ∀ n ∈ children, n.Compilable catalog := by
  simp only [Capability.compiled_succeeds_iff]
  constructor
  · intro h
    have ho := h [] (mk id args children rule) (subtree?_nil _)
    refine ⟨ho, ?_⟩
    intro n hn p m hm
    obtain ⟨i, hi⟩ := List.mem_iff_getElem?.1 hn
    exact h (i :: p) m (subtree?_cons_eq_some.2 ⟨n, hi, hm⟩)
  · intro h p m hm
    obtain ⟨ho, hb⟩ := h
    cases p with
    | nil =>
      rw [subtree?_nil, Option.some.injEq] at hm
      exact hm ▸ ho
    | cons i p =>
      obtain ⟨n, hi, hm⟩ := subtree?_cons_eq_some.1 hm
      exact hb n (List.mem_of_getElem? hi) p m hm

end

theorem compile_succeeds_iff {n : SignalNode} :
    Succeeds (n.compile catalog) ↔ n.Compilable catalog := by
  induction n using SignalNode.induct with
  | node id args children rule ih =>
    have hb : Succeeds (compileSignals catalog children) ↔
        ∀ n ∈ children, n.Compilable catalog :=
      compileSignals_succeeds_iff.trans (forall₂_congr ih)
    rw [compilable_iff, ← hb, compile]
    cases hl : catalog.lookup id with
    | none => exact ⟨fun ⟨_, h⟩ => (nomatch h), fun ⟨⟨_, h, _⟩, _⟩ => nomatch h⟩
    | some c =>
      simp only [Option.some.injEq, exists_eq_left']
      exact succeeds_bind_iff fun own _ => succeeds_map_iff

/-- Only an id that is not known is reported as unknown. -/
theorem unknown_of_compile {n : SignalNode} {id : String}
    (h : n.compile catalog = .error (.unknownCapability id)) :
    ∃ p m, n.subtree? p = some m ∧ catalog.lookup m.catalogId = none := by
  induction n using SignalNode.induct with
  | node id' args children rule ih =>
    rw [compile] at h
    cases hl : catalog.lookup id' with
    | none => exact ⟨[], _, subtree?_nil _, hl⟩
    | some c =>
      rw [hl] at h
      rcases bind_eq_error_iff.1 h with h | ⟨own, -, h⟩
      · rcases bind_eq_error_iff.1 h with h | ⟨records, -, h⟩
        · exact absurd h compileArgs_ne_unknown
        · cases h
      rcases bind_eq_error_iff.1 h with h | ⟨below, -, h⟩
      · obtain ⟨n, hn, h⟩ := compileSignals_eq_unknown h
        obtain ⟨p, m, hm, hu⟩ := ih n hn h
        obtain ⟨i, hi⟩ := List.mem_iff_getElem?.1 hn
        exact ⟨i :: p, m, subtree?_cons_eq_some.2 ⟨n, hi, hm⟩, hu⟩
      · cases h

/-- Every signal is compiled where it stands, on its own, and nothing stands elsewhere. -/
theorem compile_rel {n : SignalNode} {s : CompiledSignal} (h : n.compile catalog = .ok s)
    (p : List Nat) :
    Option.Rel (fun m t => m.compile catalog = .ok t) (n.subtree? p) (s.subtree? p) := by
  induction p generalizing n s with
  | nil =>
    rw [subtree?_nil, CompiledSignal.subtree?]
    exact .some h
  | cons i p ih =>
    obtain ⟨id, args, children, rule⟩ := n
    have hc := rel_getElem? (compileSignals_eq_ok_iff.1 (compileSignals_of_compile h)) i
    rw [subtree?_cons, CompiledSignal.subtree?]
    generalize children[i]? = k, (s.children.getD [])[i]? = t at hc
    cases hc with
    | none => exact .none
    | some hk => exact ih hk

theorem compile_subtree {n m : SignalNode} {s : CompiledSignal} {p : List Nat}
    (h : n.compile catalog = .ok s) (hm : n.subtree? p = some m) :
    ∃ c own t, catalog.lookup m.catalogId = some c ∧ c.compiled m.args m.rule = .ok own ∧
      s.subtree? p = some t ∧ t = { own with children := t.children } := by
  obtain ⟨t, ht, hc⟩ := exists_of_rel (compile_rel h p) hm
  obtain ⟨id, args, children, rule⟩ := m
  obtain ⟨c, own, below, hl, ho, -, rfl⟩ := compile_eq_ok_iff.1 hc
  exact ⟨c, own, _, hl, ho, ht, rfl⟩

end SignalNode

end TradingSignals
