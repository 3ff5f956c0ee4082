import TradingSignals.Proofs.Build.Gate
import TradingSignals.Proofs.Validation.Totality

namespace TradingSignals

/-- Why a value has no double: a whole number is too large, or a text does not read as a number. -/
def Scalar.conversionFault? : Scalar → Option ConversionFault
  | .int v => if v.natAbs < Binary64.wholeBound then none else some .tooLarge
  | .text s =>
    if (readFloatAnyScript? s.toList).isSome then none else some (.unreadable (.ofString s))
  | .float _ | .flag _ => none

theorem Scalar.failure?_toFloat (v : Scalar) : failure? v.toFloat = v.conversionFault? := by
  cases v with
  | int v =>
    rw [toFloat_of_number (n := .int v) rfl, conversionFault?]
    by_cases h : (Number.int v).converts
    · rw [Number.toFloat_of_converts h, if_pos (Number.converts_int.1 h)]
      rfl
    · rw [Number.toFloat_of_not_converts h, if_neg (mt Number.converts_int.2 h)]
      rfl
  | float x => rfl
  | flag b => rfl
  | text s =>
    rw [toFloat, conversionFault?]
    cases readFloatAnyScript? s.toList with
    | none => rfl
    | some x => rfl

/-- Why no record can be made of a declared argument. One that is not given needs none. -/
def ArgSpec.fault? (args : List (String × Scalar)) (spec : ArgSpec) : Option CompileFault :=
  (args.lookup spec.key).bind fun v => v.conversionFault?.map .conversion

namespace SignalNode

/-- Why a signal cannot be compiled, its children left aside: its id is not known, or values of
declared arguments have no double, in the order the arguments are declared in. -/
def ownFaults (catalog : Catalog) (n : SignalNode) : List CompileFault :=
  match catalog.lookup n.catalogId with
  | none => [.unknownCapability n.catalogId]
  | some c => c.requiredArgs.filterMap (ArgSpec.fault? n.args)

/-- Why a tree cannot be compiled: the faults of its signals, each before those below it. -/
def faults (catalog : Catalog) (n : SignalNode) : List CompileFault :=
  n.preorder.flatMap (ownFaults catalog)

theorem faults_mk {catalog : Catalog} {id : String} {args : List (String × Scalar)}
    {children : List SignalNode} {rule : RuleFields} :
    (mk id args children rule).faults catalog =
      (mk id args children rule).ownFaults catalog ++ children.flatMap (faults catalog) := by
  rw [faults, preorder_mk, List.flatMap_cons, List.flatMap_assoc]
  rfl

end SignalNode

/-- With bounds among the doubles, only the value of an argument can be at fault. -/
theorem failure?_compileArgs {args : List (String × Scalar)} {specs : List ArgSpec}
    (hb : ∀ spec ∈ specs, spec.BoundsConvert) :
    failure? (compileArgs args specs) = (specs.filterMap (ArgSpec.fault? args)).head? := by
  induction specs with
  | nil => rfl
  | cons spec specs ih =>
    rw [List.forall_mem_cons] at hb
    obtain ⟨hspec, hb⟩ := hb
    have hrest := ih hb
    rw [compileArgs]
    cases hl : args.lookup spec.key with
    | none =>
      have hnone : spec.fault? args = none := by rw [ArgSpec.fault?, hl, Option.bind_none]
      rw [List.filterMap_cons_none hnone]
      exact hrest
    | some v =>
      have hfault : spec.fault? args = v.conversionFault?.map .conversion := by
        rw [ArgSpec.fault?, hl, Option.bind_some]
      have hrecord : ∀ value, failure? (do
          let record ← (spec.compiled value).toExcept.mapError CompileFault.record
          let rest ← compileArgs args specs
          return record :: rest) = (specs.filterMap (ArgSpec.fault? args)).head? := by
        intro value
        have hs : failure? ((spec.compiled value).toExcept.mapError CompileFault.record) = none :=
          failure?_eq_none_iff.2 (ArgSpec.record_succeeds_iff.2 hspec)
        apply (failure?_bind fun record _ => failure?_map.trans hrest).trans
        rw [hs, Option.none_or]
      apply (failure?_bind fun value _ => hrecord value).trans
      rw [failure?_mapError, Scalar.failure?_toFloat, List.filterMap_cons, hfault]
      cases v.conversionFault? with
      | none => rfl
      | some fault => rfl

theorem failure?_compileSignals_of {catalog : Catalog} {nodes : List SignalNode}
    (h : ∀ n ∈ nodes, failure? (n.compile catalog) = (n.faults catalog).head?) :
    failure? (compileSignals catalog nodes) =
      (nodes.flatMap (SignalNode.faults catalog)).head? := by
  induction nodes with
  | nil => rfl
  | cons n nodes ih =>
    rw [List.forall_mem_cons] at h
    obtain ⟨hn, h⟩ := h
    rw [compileSignals, List.flatMap_cons, List.head?_append, ← hn]
    apply failure?_bind
    intro first _
    exact failure?_map.trans (ih h)

/-- What a tree fails by is its first fault: the id of a signal is looked at before its arguments,
and these before its children. -/
theorem SignalNode.failure?_compile {catalog : Catalog} (hb : catalog.BoundsConvert)
    (n : SignalNode) : failure? (n.compile catalog) = (n.faults catalog).head? := by
  induction n using SignalNode.induct with
  | node id args children rule ih =>
    have hbelow := failure?_compileSignals_of ih
    rw [compile, faults_mk, List.head?_append, ownFaults]
    cases hl : catalog.lookup id with
    | none => rfl
    | some c =>
      have hown : failure? (c.compiled args rule) =
          (c.requiredArgs.filterMap (ArgSpec.fault? args)).head? := by
        rw [Capability.compiled]
        apply failure?_map.trans
        exact failure?_compileArgs (hb c (Catalog.mem_toList_of_lookup hl))
      simp only
      rw [← hown, ← hbelow]
      apply failure?_bind
      intro own _
      exact failure?_map

/-- The given values of all declared arguments have doubles, and all ids are known. -/
theorem SignalNode.compilable_iff_of_boundsConvert {catalog : Catalog} {n : SignalNode}
    (hb : catalog.BoundsConvert) :
    n.Compilable catalog ↔ ∀ p m, n.subtree? p = some m →
      ∃ c, catalog.lookup m.catalogId = some c ∧
        ∀ spec ∈ c.requiredArgs, ∀ v, m.args.lookup spec.key = some v → v.Converts := by
  constructor
  · intro h p m hm
    obtain ⟨c, hl, hv⟩ := h p m hm
    exact ⟨c, hl, fun spec hs v hg => (hv spec hs v hg).1⟩
  · intro h p m hm
    obtain ⟨c, hl, hv⟩ := h p m hm
    have hc := hb c (Catalog.mem_toList_of_lookup hl)
    exact ⟨c, hl, fun spec hs v hg => ⟨hv spec hs v hg, hc spec hs⟩⟩

/-- Trees are compiled when at every position the id is known and the given values of declared
arguments have doubles. Otherwise compiling them fails by the first fault: that of the first tree,
of the first signal in it, by its id before its arguments. No id is unknown behind the check. -/
theorem compileSignals_fails_first {catalog : Catalog} (hb : catalog.BoundsConvert) :
    (∀ nodes, Succeeds (compileSignals catalog nodes) ↔
      ∀ n ∈ nodes, ∀ p m, n.subtree? p = some m →
        ∃ c, catalog.lookup m.catalogId = some c ∧
          ∀ spec ∈ c.requiredArgs, ∀ v, m.args.lookup spec.key = some v → v.Converts) ∧
    (∀ nodes fault, compileSignals catalog nodes = .error fault ↔
      (nodes.flatMap (SignalNode.faults catalog)).head? = some fault) ∧
    ∀ d : StrategyDocument, d.problems catalog = .ok [] → ∀ list id,
      compileSignals catalog (d.signals list) ≠ .error (.unknownCapability id) := by
  refine ⟨?_, ?_, ?_⟩
  · intro nodes
    rw [compileSignals_succeeds_iff]
    apply forall₂_congr
    intro n _
    exact SignalNode.compile_succeeds_iff.trans (SignalNode.compilable_iff_of_boundsConvert hb)
  · intro nodes fault
    rw [← failure?_eq_some_iff,
      failure?_compileSignals_of fun n _ => SignalNode.failure?_compile hb n]
  · intro d hv list id
    exact StrategyDocument.compileSignals_ne_unknown_of_passed hv list id

/-- A rule fails by its value, though the id of a signal below it is not known either; a length
fails before the id of the tree behind it. -/
theorem first_fault_reported :
    let word := { SignalNode.comparison "OFF" (.text "abc") with
      children := [{ catalogId := "raw.none" }] }
    let long := SignalNode.average (.int Binary64.wholeBound)
    Catalog.builtIn.BoundsConvert ∧
      (∃ fault, compileSignals .builtIn [.average (.text "5"), word, long] = .error fault ∧
        ∀ wording, fault.message wording = "could not convert string to float: 'abc'") ∧
      ∃ fault, compileSignals .builtIn (long :: word.children) = .error fault ∧
        ∀ wording, fault.message wording = "int too large to convert to float" := by
  intro word long
  have hb : Catalog.builtIn.BoundsConvert := by decide +kernel
  have hfault : ∀ nodes message, ((nodes.flatMap (SignalNode.faults .builtIn)).head?.any
      fun fault => fault.conversion?.any (·.message == message)) →
        ∃ fault, compileSignals .builtIn nodes = .error fault ∧
          ∀ wording, fault.message wording = message := by
    intro nodes message h
    obtain ⟨fault, hf, hm⟩ := (Option.any_eq_true _ _).1 h
    obtain ⟨conversion, hc, hm⟩ := (Option.any_eq_true _ _).1 hm
    refine ⟨fault, ((compileSignals_fails_first hb).2.1 nodes fault).2 hf, fun wording => ?_⟩
    rw [fault.message_of_conversion hc wording]
    exact beq_iff_eq.1 hm
  refine ⟨hb, hfault _ _ ?_, hfault _ _ ?_⟩
  · decide +kernel
  · decide +kernel

end TradingSignals
