import TradingSignals.Proofs.Signal.Records
import TradingSignals.Proofs.Signal.Wire
import TradingSignals.Proofs.Strategy.Agreement

namespace TradingSignals

/-- The same record, except that a double that is no number counts as the same as another. -/
structure CompiledArg.Alike (a b : CompiledArg) : Prop where
  key : a.key = b.key
  floats : List.Forall₂ Binary64.Alike a.floats b.floats
  type : a.type = b.type
  valueType : a.valueType = b.valueType

namespace CompiledSignal

/-- Two signals with their children left aside. -/
structure NodeAlike (s t : CompiledSignal) : Prop where
  signalType : s.signalType = t.signalType
  key : s.key = t.key
  typeCode : s.typeCode = t.typeCode
  args : Option.Rel (List.Forall₂ CompiledArg.Alike) s.args t.args
  parent : s.children.isSome = t.children.isSome
  rule : s.rule = t.rule
  marketNumber : s.marketNumber = t.marketNumber
  required : s.required = t.required
  symbol : s.symbol = t.symbol

/-- Two signals that are alike at every level. -/
inductive Alike : CompiledSignal → CompiledSignal → Prop
  | node {s t : CompiledSignal} (own : s.NodeAlike t)
    (children : List.Forall₂ Alike (s.children.getD []) (t.children.getD [])) : Alike s t

end CompiledSignal

namespace ArgSpec

variable {spec : ArgSpec}

theorem compiled_agree {x y : Binary64} (h : x.Alike y) :
    Agree CompiledArg.Alike ((spec.compiled x).toExcept.mapError CompileFault.record)
      ((spec.compiled y).toExcept.mapError CompileFault.record) := by
  unfold compiled
  generalize recordBound "min" (spec.min.getD (.int 0)) = low
  generalize recordBound "max" (spec.max.getD (.int 1000000)) = high
  cases low with
  | faulty faults => cases high <;> exact .error _
  | ok low =>
    cases high with
    | faulty faults => exact .error _
    | ok high =>
      refine .ok ⟨rfl, ?_, rfl, rfl⟩
      exact .cons h (.cons h (.cons h (.cons h (.cons rfl (.cons rfl (.cons rfl .nil))))))

end ArgSpec

section

variable {args args' : List (String × Scalar)}
  (h : ∀ key, Option.Rel (fun x y : Scalar => x.same y) (args.lookup key) (args'.lookup key))
include h

theorem compileArgs_agree {specs : List ArgSpec} :
    Agree (List.Forall₂ CompiledArg.Alike) (compileArgs args specs) (compileArgs args' specs) := by
  induction specs with
  | nil => exact .ok .nil
  | cons spec specs ih =>
    have hl := h spec.key
    rw [compileArgs, compileArgs]
    generalize args.lookup spec.key = o, args'.lookup spec.key = o' at hl
    cases hl with
    | none => exact ih
    | some hv =>
      apply ((Scalar.toFloat_agree hv).mapError CompileFault.conversion).bind
      intro x y hxy
      apply (ArgSpec.compiled_agree hxy).bind
      intro record record' hr
      apply ih.map
      intro rest rest' hrest
      exact .cons hr hrest

theorem Capability.signalKey_eq_of_lookup (c : Capability) :
    c.signalKey args = c.signalKey args' := by
  have hk : (fun k => (args.lookup k).map Scalar.shown) =
      fun k => (args'.lookup k).map Scalar.shown := by
    funext key
    have hl := h key
    generalize args.lookup key = o, args'.lookup key = o' at hl
    cases hl with
    | none => rfl
    | some hv => exact congrArg some (Scalar.shown_eq_of_same hv)
  rw [signalKey, signalKey, hk]

theorem Capability.compiled_agree {c : Capability} {rule : RuleFields}
    (he : args.isEmpty = args'.isEmpty) :
    Agree CompiledSignal.NodeAlike (c.compiled args rule) (c.compiled args' rule) := by
  apply (compileArgs_agree h).map
  intro records records' hr
  rw [he, c.signalKey_eq_of_lookup h]
  refine ⟨rfl, rfl, rfl, ?_, rfl, rfl, rfl, rfl, rfl⟩
  split
  · exact .none
  · exact .some hr

end

section

variable {catalog : Catalog}

theorem compileSignals_agree_of_forall₂ {nodes more : List SignalNode}
    (h : List.Forall₂ (fun n m => Agree CompiledSignal.Alike (n.compile catalog)
      (m.compile catalog)) nodes more) :
    Agree (List.Forall₂ CompiledSignal.Alike) (compileSignals catalog nodes)
      (compileSignals catalog more) := by
  induction h with
  | nil => exact .ok .nil
  | cons hn _ ih =>
    rw [compileSignals, compileSignals]
    apply hn.bind
    intro first first' hf
    apply ih.map
    intro rest rest' hr
    exact .cons hf hr

/-- The same trees are compiled alike, or fail alike. -/
theorem SignalNode.compile_agree {n m : SignalNode} (hw : n.Everywhere ArgsWritten)
    (h : n.same m) : Agree CompiledSignal.Alike (n.compile catalog) (m.compile catalog) := by
  induction n using SignalNode.induct generalizing m with
  | node id args children rule ih =>
    obtain ⟨id', args', children', rule'⟩ := m
    obtain ⟨rfl, hargs, rfl, hchildren⟩ := same_mk.1 h
    obtain ⟨hown, hbelow⟩ := everywhere_mk.1 hw
    have hlist := compileSignals_agree_of_forall₂
      (forall₂_imp hchildren fun n hn m hnm => ih n hn (hbelow n hn) hnm)
    rw [compile, compile]
    cases catalog.lookup id with
    | none => exact .error _
    | some c =>
      apply (c.compiled_agree (lookup_rel hargs hown.keys) (isEmpty_eq_of_sameArgs hargs)).bind
      intro own own' ho
      apply hlist.map
      intro below below' hb
      cases hchildren with
      | nil => exact .node { ho with parent := rfl } .nil
      | cons => exact .node { ho with parent := rfl } hb

end

theorem Binary64.Alike.same_iff {x y : Binary64} (h : x.Alike y) : x.same y ↔ x ≠ .nan := by
  have hp : x.place = y.place := h
  rw [same, Place.same_iff, and_iff_right hp, Ne, place_eq_nowhere_iff]

theorem CompiledArg.Alike.same_iff {a b : CompiledArg} (h : a.Alike b) :
    a.same b ↔ ∀ x ∈ a.floats, x ≠ .nan := by
  have hf := h.floats
  simp only [CompiledArg.floats, List.forall₂_cons, List.Forall₂.nil, and_true] at hf
  obtain ⟨hvalue, hbaseValue, hbase, hlast, hmin, hmax, hstep⟩ := hf
  simp only [same, h.key, h.type, h.valueType, Bool.and_eq_true, beq_self_eq_true, true_and,
    and_true, hvalue.same_iff, hbaseValue.same_iff, hbase.same_iff, hlast.same_iff, hmin.same_iff,
    hmax.same_iff, hstep.same_iff, CompiledArg.floats, List.forall_mem_cons, List.not_mem_nil,
    false_implies, implies_true, and_assoc]

theorem sameCompiledArgs_iff {as bs : List CompiledArg} (h : List.Forall₂ CompiledArg.Alike as bs) :
    sameCompiledArgs as bs ↔ ∀ a ∈ as, ∀ x ∈ a.floats, x ≠ .nan := by
  induction h with
  | nil => exact iff_of_true rfl (List.forall_mem_nil _)
  | cons hab _ ih => rw [sameCompiledArgs, Bool.and_eq_true, hab.same_iff, ih, List.forall_mem_cons]

namespace CompiledSignal

variable {s t : CompiledSignal}

theorem Alike.own (h : s.Alike t) : s.NodeAlike t := by
  cases h with
  | node own children => exact own

theorem Alike.children (h : s.Alike t) :
    List.Forall₂ Alike (s.children.getD []) (t.children.getD []) := by
  cases h with
  | node own children => exact children

/-- What is alike is so wherever there is a signal in it. -/
theorem Alike.subtree? (h : s.Alike t) (p : List Nat) :
    Option.Rel Alike (s.subtree? p) (t.subtree? p) := by
  induction p generalizing s t with
  | nil =>
    rw [CompiledSignal.subtree?, CompiledSignal.subtree?]
    exact .some h
  | cons i p ih =>
    have hc := rel_getElem? h.children i
    rw [CompiledSignal.subtree?, CompiledSignal.subtree?]
    generalize (s.children.getD [])[i]? = k, (t.children.getD [])[i]? = l at hc
    cases hc with
    | none => exact .none
    | some hk => exact ih hk

/-- Every double of a signal, and of those below it, is a number. -/
def NumbersOnly (s : CompiledSignal) : Prop :=
  s.Everywhere fun t => ∀ a ∈ t.args.getD [], ∀ x ∈ a.floats, x ≠ .nan

theorem sameCompiledSignals_iff {signals more : List CompiledSignal}
    (h : List.Forall₂ (fun s t => s.same t ↔ s.NumbersOnly) signals more) :
    sameCompiledSignals signals more ↔ ∀ s ∈ signals, s.NumbersOnly := by
  induction h with
  | nil => exact iff_of_true rfl (List.forall_mem_nil _)
  | cons hst _ ih => rw [sameCompiledSignals, Bool.and_eq_true, hst, ih, List.forall_mem_cons]

/-- Alike signals are the same unless there is a double in them that is no number. -/
theorem Alike.same_iff (h : s.Alike t) : s.same t ↔ s.NumbersOnly := by
  induction s using CompiledSignal.induct generalizing t with
  | node s ih =>
    have hown := h.own
    have hchildren := h.children
    have hbelow := sameCompiledSignals_iff (forall₂_imp hchildren fun u hu v huv => ih u hu huv)
    have hparent := hown.parent
    have hargs := hown.args
    rw [NumbersOnly, everywhere_iff]
    obtain ⟨signalType, key, typeCode, args, children, rule, marketNumber, required, symbol⟩ := s
    obtain ⟨signalType', key', typeCode', args', children', rule', marketNumber', required',
      symbol'⟩ := t
    obtain ⟨rfl, rfl, rfl, -, -, rfl, rfl, rfl, rfl⟩ := hown
    have hown : sameOption sameCompiledArgs args args' ↔
        ∀ a ∈ args.getD [], ∀ x ∈ a.floats, x ≠ .nan := by
      cases hargs with
      | none => exact iff_of_true rfl (List.forall_mem_nil _)
      | some ha => exact sameCompiledArgs_iff ha
    have hlist : sameChildren children children' ↔ ∀ u ∈ children.getD [], u.NumbersOnly := by
      cases children with
      | none =>
        cases children' with
        | none => exact iff_of_true rfl (List.forall_mem_nil _)
        | some more => cases hparent
      | some signals =>
        cases children' with
        | none => cases hparent
        | some more => exact hbelow
    rw [same]
    simp only [Bool.and_eq_true, beq_self_eq_true, true_and, and_true, hown, hlist]
    rfl

end CompiledSignal

end TradingSignals
