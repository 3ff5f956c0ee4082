import TradingSignals.Proofs.Build.Outcome
import TradingSignals.Proofs.Signal.Replacement

namespace TradingSignals

/-- The keys of a rule in the wire form. -/
def ruleKeys : List String := ["R1Md", "R1Op", "CrOp", "R2Md", "R2Op", "Entry", "Exit"]

/-- All keys of the wire form in their order. -/
def wireKeys : List String :=
  ["$type", "Key", "Type", "Args", "Children"] ++ ruleKeys ++ ["MktN", "Rqd", "SymbolId"]

/-- All keys of a record, none of which is ever left out. -/
def recordKeys : List String :=
  ["Key", "Value", "BaseValue", "Base", "Last", "Min", "Max", "Step", "Type", "ValueType"]

/-- The keys that are never left out. -/
def constantKeys : List String := ["$type", "Key", "Type", "MktN", "Rqd", "SymbolId"]

/-- The wire form at a position: the item of the list of children to go to at each step. -/
def Json.signal? : Json → List Nat → Option Json
  | w, [] => some w
  | w, i :: p => match w.field? "Children" with
    | some (.array items) => items[i]?.bind fun v => Json.signal? v p
    | _ => none

/-- A double on the wire. What is infinite or no number is null there. -/
def Json.number (x : Binary64) : Json := if x.isFinite then .float x else .null

/-- A record on the wire: the key of a declared argument, four times the value that is given for it,
the declared bounds, or nought and a million, and noughts. -/
structure ArgSpec.WrittenAs (args : List (String × Scalar)) (spec : ArgSpec) (item : Json) :
    Prop where
  keys : ∃ fields, item = .object fields ∧ fields.map Prod.fst = recordKeys
  key : item.field? "Key" = some (.text spec.key)
  given : ∃ v x, args.lookup spec.key = some v ∧ v.toFloat = .ok x ∧
    ∀ key ∈ ["Value", "BaseValue", "Base", "Last"], item.field? key = some (.number x)
  min : item.field? "Min" = some (.number (spec.min.getD (.int 0)).toBinary64)
  max : item.field? "Max" = some (.number (spec.max.getD (.int 1000000)).toBinary64)
  step : item.field? "Step" = some (.float (.ofInt 0))
  reserved : ∀ key ∈ ["Type", "ValueType"], item.field? key = some (.int 0)

/-- A record is written with all that it says. -/
theorem ArgSpec.writtenAs_of_recordedAs {args : List (String × Scalar)} {spec : ArgSpec}
    {r : CompiledArg} (h : spec.RecordedAs args r) :
    spec.WrittenAs args (r.toJson .wire).finite where
  keys := ⟨_, rfl, rfl⟩
  key := by
    rw [← h.key]
    rfl
  given := by
    obtain ⟨v, hv, hx⟩ := h.given
    refine ⟨v, r.value, hv, hx, ?_⟩
    simp only [List.forall_mem_cons, List.not_mem_nil, false_implies, implies_true, and_true]
    refine ⟨rfl, ?_, ?_, ?_⟩
    · rw [← h.baseValue]
      rfl
    · rw [← h.base]
      rfl
    · rw [← h.last]
      rfl
  min := by
    rw [← h.min]
    rfl
  max := by
    rw [← h.max]
    rfl
  step := by
    have hstep : Json.field? "Step" (r.toJson .wire).finite = some (.number r.step) := rfl
    rw [hstep, h.step, Json.number, if_pos (by decide +kernel)]
  reserved := by
    simp only [List.forall_mem_cons, List.not_mem_nil, false_implies, implies_true, and_true]
    constructor
    · rw [← h.type]
      rfl
    · rw [← h.valueType]
      rfl

/-- What the wire form of a signal looks like, its children aside. The records are those of the
declared arguments that are given, in the order of declaration. -/
structure WireShape (c : Capability) (m : SignalNode) (w : Json) : Prop where
  keys : ∃ fields, w = .object fields ∧ (fields.map Prod.fst).Sublist wireKeys
  constant : ∀ key ∈ constantKeys, (w.field? key).isSome
  args : w.field? "Args" = none ↔ m.args = [] ∧ c.requiredArgs = []
  children : w.field? "Children" = none ↔ m.children = []
  rule : (∀ key ∈ ruleKeys, (w.field? key).isSome) ∨ ∀ key ∈ ruleKeys, w.field? key = none
  parametric : (w.field? "R1Md").isSome ↔ w.field? "$type" = some (.text "SignalParametric")
  code : (w.field? "R1Md").isSome ↔ w.field? "Type" = some (.int 7)
  records : ∀ v, w.field? "Args" = some v → ∃ items, v = .array items ∧
    List.Forall₂ (ArgSpec.WrittenAs m.args) (c.requiredArgs.filter (·.isGiven m.args)) items

theorem signalTypeCode_eq_seven_iff {signalType : String} :
    signalTypeCode signalType = 7 ↔ signalType = parametricType := by
  -- no other type of the table has this code, and those outside of it have another one
  have ht : ∀ entry ∈ signalTypeCodes, entry.2 = 7 → entry.1 = parametricType := by decide
  constructor
  · intro h
    unfold signalTypeCode at h
    cases hl : signalTypeCodes.lookup signalType with
    | none =>
      rw [hl] at h
      cases h
    | some code =>
      rw [hl] at h
      exact ht (signalType, code) (mem_of_lookup hl) h
  · rintro rfl
    decide

namespace CompiledSignal

variable {s : CompiledSignal}

theorem wireFields_keys : s.wireFields.map Prod.fst =
    ["$type", "Key", "Type"] ++ (if s.args.isSome then ["Args"] else []) ++
      (if s.children.isSome then ["Children"] else []) ++
      (if s.isParametric then ruleKeys else []) ++ ["MktN", "Rqd", "SymbolId"] := by
  obtain ⟨signalType, key, typeCode, args, children, rule, marketNumber, required, symbol⟩ := s
  obtain ⟨mode1, operation1, crossOp, mode2, operation2, entry, exit⟩ := rule
  cases args <;> cases children <;> cases mode1 <;> rfl

theorem field?_toWire (s : CompiledSignal) (key : String) :
    s.toWire.field? key = s.wireFields.lookup key := by
  rw [toWire_eq, Json.field?]

theorem field?_args : s.toWire.field? "Args" =
    s.args.map fun args => .array (args.map fun a => (a.toJson .wire).finite) := by
  rw [field?_toWire]
  obtain ⟨signalType, key, typeCode, args, children, rule, marketNumber, required, symbol⟩ := s
  obtain ⟨mode1, operation1, crossOp, mode2, operation2, entry, exit⟩ := rule
  cases args <;> cases children <;> cases mode1 <;> rfl

theorem field?_children : s.toWire.field? "Children" =
    s.children.map fun signals => .array (signals.map toWire) := by
  rw [field?_toWire]
  obtain ⟨signalType, key, typeCode, args, children, rule, marketNumber, required, symbol⟩ := s
  obtain ⟨mode1, operation1, crossOp, mode2, operation2, entry, exit⟩ := rule
  cases args <;> cases children <;> cases mode1 <;> rfl

theorem isSome_field?_iff {key : String} :
    (s.toWire.field? key).isSome ↔ key ∈ s.wireFields.map Prod.fst := by
  rw [field?_toWire, List.lookup_isSome_iff, List.mem_map]
  simp only [beq_iff_eq, @eq_comm _ key]

/-- A rule is written as a whole or not at all. -/
theorem isSome_field?_rule {key : String} (h : key ∈ ruleKeys) :
    (s.toWire.field? key).isSome ↔ s.isParametric := by
  rw [isSome_field?_iff, wireFields_keys]
  generalize s.args.isSome = a, s.children.isSome = b, s.isParametric = r
  revert key
  cases a <;> cases b <;> cases r <;> decide

theorem isSome_field?_constant {key : String} (h : key ∈ constantKeys) :
    (s.toWire.field? key).isSome := by
  rw [isSome_field?_iff, wireFields_keys]
  generalize s.args.isSome = a, s.children.isSome = b, s.isParametric = r
  revert key
  cases a <;> cases b <;> cases r <;> decide

/-- The wire form has the positions of the signal. -/
theorem signal?_toWire {p : List Nat} : s.toWire.signal? p = (s.subtree? p).map toWire := by
  induction p generalizing s with
  | nil => rfl
  | cons i p ih =>
    rw [Json.signal?, field?_children, subtree?]
    cases s.children with
    | none => rfl
    | some signals =>
      simp only [Option.map_some, Option.getD_some, List.getElem?_map]
      cases signals[i]? with
      | none => rfl
      | some t => exact ih

end CompiledSignal

namespace SignalNode

variable {catalog : Catalog} {n : SignalNode} {s : CompiledSignal}

/-- The fields that tell whether the compiled form leaves something out. -/
theorem exists_own_of_compile (h : n.compile catalog = .ok s) :
    ∃ c, catalog.lookup n.catalogId = some c ∧ s.signalType = c.signalType ∧
      s.typeCode = signalTypeCode c.signalType ∧ s.isParametric = c.isParametric ∧
      (s.args = none ↔ n.args = [] ∧ c.requiredArgs = []) ∧
      (s.children = none ↔ n.children = []) ∧
      List.Forall₂ (ArgSpec.RecordedAs n.args) (c.requiredArgs.filter (·.isGiven n.args))
        (s.args.getD []) := by
  obtain ⟨id, args, children, rule⟩ := n
  obtain ⟨c, own, below, hl, ho, -, rfl⟩ := compile_eq_ok_iff.1 h
  have hrecords := Capability.records_of_compiled ho
  have hrule := Capability.rule_of_compiled ho
  obtain ⟨records, -, rfl⟩ := map_eq_ok_iff.1 ho
  refine ⟨c, hl, rfl, rfl, ?_, ?_, ?_, hrecords⟩
  · simp only [CompiledSignal.isParametric]
    cases c.isParametric <;> rfl
  · simp
  · simp

theorem wireShape_of_compile (h : n.compile catalog = .ok s) :
    ∃ c, catalog.lookup n.catalogId = some c ∧ WireShape c n s.toWire := by
  obtain ⟨c, hl, htype, hcode, hparametric, hargs, hchildren, hrecords⟩ :=
    exists_own_of_compile h
  have hp : (s.toWire.field? "R1Md").isSome ↔ c.signalType = parametricType := by
    rw [CompiledSignal.isSome_field?_rule (by decide), hparametric, Capability.isParametric,
      beq_iff_eq]
  refine ⟨c, hl, ?_⟩
  constructor
  case keys =>
    refine ⟨s.wireFields, CompiledSignal.toWire_eq, ?_⟩
    rw [CompiledSignal.wireFields_keys]
    generalize s.args.isSome = a, s.children.isSome = b, s.isParametric = r
    cases a <;> cases b <;> cases r <;> decide
  case constant => exact fun key hk => CompiledSignal.isSome_field?_constant hk
  case args => rw [CompiledSignal.field?_args, Option.map_eq_none_iff, hargs]
  case children => rw [CompiledSignal.field?_children, Option.map_eq_none_iff, hchildren]
  case rule =>
    cases hs : s.isParametric with
    | true => exact Or.inl fun key hk => (CompiledSignal.isSome_field?_rule hk).2 hs
    | false =>
      refine Or.inr fun key hk => Option.not_isSome_iff_eq_none.1 ?_
      rw [CompiledSignal.isSome_field?_rule hk, hs]
      exact Bool.false_ne_true
  case parametric =>
    have hf : s.toWire.field? "$type" = some (.text s.signalType) := by
      rw [CompiledSignal.field?_toWire]
      rfl
    rw [hp, hf, htype, Option.some.injEq, JsonTree.text.injEq]
    rfl
  case code =>
    have hf : s.toWire.field? "Type" = some (.int s.typeCode) := by
      rw [CompiledSignal.field?_toWire]
      rfl
    rw [hp, hf, hcode, Option.some.injEq, JsonTree.int.injEq, signalTypeCode_eq_seven_iff]
  case records =>
    intro v hv
    rw [CompiledSignal.field?_args] at hv
    obtain ⟨records, hr, rfl⟩ := Option.map_eq_some_iff.1 hv
    refine ⟨_, rfl, ?_⟩
    rw [hr] at hrecords
    rw [List.forall₂_map_right_iff]
    exact hrecords.imp fun spec r hr => ArgSpec.writtenAs_of_recordedAs hr

/-- Compiling keeps every position and looks at each signal alone, so that another subtree changes
nothing but what it is compiled to itself. What is written of a signal leaves out only what the
signal or its type does not have. -/
theorem compile_local (h : n.compile catalog = .ok s) :
    s.positions = n.positions ∧
    (∀ p, Option.Rel (fun m t => m.alone.compile catalog = .ok t.alone)
      (n.subtree? p) (s.subtree? p)) ∧
    (∀ p ∈ n.positions, ∀ new,
      (n.replaceAt p new).compile catalog = (s.replaceAt p ·) <$> new.compile catalog) ∧
    (n.height ≤ 126 → Succeeds s.toWire?) ∧
    ∀ w, s.toWire? = .ok w → ∀ p, Option.Rel
      (fun m v => ∃ c, catalog.lookup m.catalogId = some c ∧ WireShape c m v)
      (n.subtree? p) (w.signal? p) := by
  have hrel := compile_rel h
  refine ⟨positions_of_compile h, ?_, ?_, ?_, ?_⟩
  · intro p
    apply rel_imp (hrel p)
    intro m t _ hm
    exact compile_alone hm
  · intro p hp new
    obtain ⟨m, hm⟩ := mem_positions.1 hp
    exact compile_replaceAt h hm new
  · intro hheight
    have hdepth := depth_of_compile h
    refine ⟨s.toWire, if_pos (CompiledSignal.fits_iff.2 ?_)⟩
    omega
  · intro w hw p
    have hwire : w = s.toWire := by
      unfold CompiledSignal.toWire? at hw
      split at hw
      · exact (Except.ok.inj hw).symm
      · cases hw
    rw [hwire, CompiledSignal.signal?_toWire]
    have hp := hrel p
    generalize n.subtree? p = o, s.subtree? p = o' at hp
    cases hp with
    | none => exact .none
    | some hm => exact .some (wireShape_of_compile hm)

end SignalNode

/-- A rule inside a rule, whose second signal is exchanged for the highest price. The value of the
inner one is no number, and its record has null for it. -/
theorem inner_rule_translated :
    let inner := SignalNode.comparison "XOR" (.float .nan)
    let n := { SignalNode.comparison "AND" (.int 0) with
      children := [inner, { catalogId := "raw.open" }] }
    let high : SignalNode := { catalogId := "raw.high" }
    ∃ s t w v, n.compile .builtIn = .ok s ∧ s.positions = [[], [0], [0, 0], [0, 1], [1]] ∧
      high.compile .builtIn = .ok t ∧
      (n.replaceAt [0, 1] high).compile .builtIn = .ok (s.replaceAt [0, 1] t) ∧
      s.toWire? = .ok w ∧ Json.signal? w [0] = some v ∧ WireShape BuiltIn.parametric inner v ∧
      ∃ (records : List Json) (record : Json),
        v.field? "Args" = some (.array records) ∧ records[2]? = some record ∧
        record.field? "Key" = some (.text "Rule1 Value") ∧
        record.field? "Value" = some .null := by
  intro inner n high
  have hcompiles : ((n.compile .builtIn).toOption.any fun _ => true) ∧
      ((high.compile .builtIn).toOption.any fun _ => true) := by
    decide +kernel
  obtain ⟨⟨s, hs, -⟩, t, ht, -⟩ := hcompiles.imp any_toOption_iff.1 any_toOption_iff.1
  obtain ⟨hp, -, hr, hw, hshape⟩ := SignalNode.compile_local hs
  obtain ⟨w, hw⟩ := hw (by decide)
  obtain ⟨v, hv, c, hl, hin⟩ := exists_of_rel (hshape w hw [0]) rfl
  have hc : Catalog.builtIn.lookup inner.catalogId = some BuiltIn.parametric := by decide +kernel
  cases hc.symm.trans hl
  have hreplaced := hr [0, 1] (by decide) high
  rw [ht] at hreplaced
  refine ⟨s, t, w, v, hs, hp, ht, hreplaced, hw, hv, hin, ?_⟩
  have hsome : v.field? "Args" ≠ none := fun h => nomatch (hin.args.1 h).1
  obtain ⟨o, ho⟩ := Option.ne_none_iff_exists'.1 hsome
  obtain ⟨records, rfl, hrecords⟩ := hin.records o ho
  obtain ⟨spec, hspec, hkey⟩ : ∃ spec,
      (BuiltIn.parametric.requiredArgs.filter (·.isGiven inner.args))[2]? = some spec ∧
        spec.key = "Rule1 Value" := ⟨_, rfl, rfl⟩
  obtain ⟨record, hrecord, hwritten⟩ := exists_of_rel (rel_getElem? hrecords 2) hspec
  obtain ⟨given, x, hgiven, hx, hvalues⟩ := hwritten.given
  rw [hkey] at hgiven
  cases hgiven
  cases hx
  exact ⟨records, record, ho, hrecord, hkey ▸ hwritten.key, hvalues "Value" List.mem_cons_self⟩

end TradingSignals
