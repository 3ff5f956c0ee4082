import TradingSignals.Proofs.Signal.Compilation
import TradingSignals.Proofs.Strategy.Encoding
import TradingSignals.Signal.Decoding

namespace TradingSignals

namespace CompiledSignal

theorem sizeOf_lt_of_child {s t : CompiledSignal} (h : t ∈ s.children.getD []) :
    sizeOf t < sizeOf s := by
  obtain ⟨signalType, key, typeCode, args, children, rule, marketNumber, required, symbol⟩ := s
  cases children with
  | none => cases h
  | some signals =>
    have hlt := List.sizeOf_lt_of_mem (show t ∈ signals from h)
    simp only [mk.sizeOf_spec, Option.some.sizeOf_spec]
    omega

/-- What holds of a signal whenever it holds of its children holds of every signal. -/
theorem induct {motive : CompiledSignal → Prop}
    (node : ∀ s : CompiledSignal, (∀ t ∈ s.children.getD [], motive t) → motive s)
    (s : CompiledSignal) : motive s := by
  induction hk : sizeOf s using Nat.strongRecOn generalizing s with
  | ind k ih => exact node s fun t ht => ih _ (hk ▸ sizeOf_lt_of_child ht) t rfl

/-- Holds of a signal and of all below it. -/
def Everywhere (P : CompiledSignal → Prop) (s : CompiledSignal) : Prop :=
  ∀ p t, s.subtree? p = some t → P t

theorem everywhere_iff {P : CompiledSignal → Prop} {s : CompiledSignal} :
    s.Everywhere P ↔ P s ∧ ∀ t ∈ s.children.getD [], t.Everywhere P := by
  constructor
  · intro h
    refine ⟨h [] s (by rw [subtree?]), ?_⟩
    intro t ht p u hu
    obtain ⟨i, hi⟩ := List.mem_iff_getElem?.1 ht
    exact h (i :: p) u (by rw [subtree?, hi, Option.bind_some, hu])
  · intro h p u hu
    cases p with
    | nil =>
      rw [subtree?, Option.some.injEq] at hu
      exact hu ▸ h.1
    | cons i p =>
      rw [subtree?] at hu
      obtain ⟨t, hi, ht⟩ := Option.bind_eq_some_iff.1 hu
      exact h.2 t (List.mem_of_getElem? hi) p u ht

end CompiledSignal

theorem compiledItemsToJson_eq {spelling : Spelling} {signals : List CompiledSignal} :
    compiledItemsToJson spelling signals = signals.map (CompiledSignal.toJson spelling) := by
  induction signals with
  | nil => rfl
  | cons s signals ih => rw [compiledItemsToJson, ih, List.map_cons]

/-- The fields of the wire form in their order. -/
def CompiledSignal.wireFields (s : CompiledSignal) : List (String × Json) :=
  (CompiledField.signalType.wire, .text s.signalType) ::
    (CompiledField.key.wire, .text s.key) ::
    (CompiledField.typeCode.wire, .int s.typeCode) ::
    ((s.args.toList.map fun args =>
        (CompiledField.args.wire, .array (args.map fun a => (a.toJson .wire).finite))) ++
      (s.children.toList.map fun signals =>
        (CompiledField.children.wire, .array (signals.map toWire))) ++
      ((s.rule.toFields .wire).map fun f => (f.1, f.2.finite)) ++
      [(CompiledField.marketNumber.wire, .int s.marketNumber),
       (CompiledField.required.wire, .bool s.required),
       (CompiledField.symbol.wire, (s.symbol.toJson .wire).finite)])

theorem CompiledSignal.toWire_eq {s : CompiledSignal} : s.toWire = .object s.wireFields := by
  obtain ⟨signalType, key, typeCode, args, children, rule, marketNumber, required, symbol⟩ := s
  have hargs : (argRecords .wire args).map (fun f => (f.1, f.2.finite)) =
      args.toList.map fun args =>
        (CompiledField.args.wire, .array (args.map fun a => (a.toJson .wire).finite)) := by
    cases args with
    | none => rfl
    | some args =>
      simp only [argRecords, List.map_cons, List.map_nil, JsonTree.finite_array, List.map_map]
      rfl
  have hchildren : (childRecords .wire children).map (fun f => (f.1, f.2.finite)) =
      children.toList.map fun signals =>
        (CompiledField.children.wire, .array (signals.map toWire)) := by
    cases children with
    | none => rfl
    | some signals =>
      simp only [childRecords, compiledItemsToJson_eq, List.map_cons, List.map_nil,
        JsonTree.finite_array, List.map_map]
      rfl
  rw [toWire, toJson, JsonTree.finite_object]
  simp only [List.map_cons, List.map_append, hargs, hchildren]
  rfl

namespace Decode

variable {fields : List (String × Json)}

theorem lastCompiled_eq {name : String} :
    lastCompiled name fields =
      (lastField? name fields).map fun v => (compiledList v).inside (.key name) := by
  induction fields with
  | nil => rfl
  | cons f fields ih =>
    obtain ⟨k, v⟩ := f
    rw [lastCompiled, ih, lastField?]
    cases lastField? name fields with
    | some w => rfl
    | none =>
      by_cases hk : k == name
      · rw [eq_of_beq hk]
        simp
      · simp [hk]

theorem compiledSignal_object :
    compiledSignal (.object fields) =
      CompiledSignal.mk <$> CompiledField.signalType.required text fields
        <*> CompiledField.key.required text fields
        <*> CompiledField.typeCode.required integer fields
        <*> CompiledField.args.nullable (list compiledArg) fields
        <*> CompiledField.children.withDefault none compiledList fields
        <*> compiledRule fields
        <*> CompiledField.marketNumber.withDefault 1 integer fields
        <*> CompiledField.required.withDefault false bool fields
        <*> CompiledField.symbol.withDefault {} symbolRef fields := by
  rw [compiledSignal, lastCompiled_eq, lastCompiled_eq]
  -- the children are the last but four
  congr 5
  rw [FieldName.withDefault, FieldName.find?]
  cases lastField? CompiledField.children.wire fields with
  | some v => rfl
  | none =>
    cases lastField? CompiledField.children.plain fields with
    | some v => rfl
    | none => rfl

theorem compiledSignal_object_eq_ok_iff {s : CompiledSignal} :
    compiledSignal (.object fields) = .ok s ↔
      CompiledField.signalType.required text fields = .ok s.signalType ∧
      CompiledField.key.required text fields = .ok s.key ∧
      CompiledField.typeCode.required integer fields = .ok s.typeCode ∧
      CompiledField.args.nullable (list compiledArg) fields = .ok s.args ∧
      CompiledField.children.withDefault none compiledList fields = .ok s.children ∧
      compiledRule fields = .ok s.rule ∧
      CompiledField.marketNumber.withDefault 1 integer fields = .ok s.marketNumber ∧
      CompiledField.required.withDefault false bool fields = .ok s.required ∧
      CompiledField.symbol.withDefault {} symbolRef fields = .ok s.symbol := by
  obtain ⟨signalType, key, typeCode, args, children, rule, marketNumber, required, symbol⟩ := s
  rw [compiledSignal_object]
  simp only [Decoded.seq_eq_ok_iff, Decoded.map_eq_ok_iff, ↓existsAndEq, and_true, and_assoc,
    CompiledSignal.mk.injEq]

theorem compiledItems_eq_indexed {items : List Json} {i : Nat} :
    compiledItems i items = indexed compiledSignal i items := by
  induction items generalizing i with
  | nil => rfl
  | cons v items ih => rw [compiledItems, ih, indexed]

theorem compiledList_array_eq_ok_iff {items : List Json} {o : Option (List CompiledSignal)} :
    compiledList (.array items) = .ok o ↔ ∃ signals, some signals = o ∧
      List.Forall₂ (fun v s => compiledSignal v = .ok s) items signals := by
  have hmap : compiledList (.array items) = some <$> compiledItems 0 items := by
    rw [compiledList]
    rfl
  rw [hmap, Decoded.map_eq_ok_iff]
  simp only [compiledItems_eq_indexed, indexed_eq_ok_iff, and_comm]

end Decode

/-- The doubles of an argument. -/
def CompiledArg.floats (a : CompiledArg) : List Binary64 :=
  [a.value, a.baseValue, a.base, a.last, a.min, a.max, a.step]

namespace CompiledSignal

/-- No double of a signal, or of one below it, is infinite or no number. -/
def AllFinite (s : CompiledSignal) : Prop :=
  s.Everywhere fun t => ∀ a ∈ t.args.getD [], ∀ x ∈ a.floats, x.isFinite

end CompiledSignal

/-- The rule as it is read back: without a first mode nothing of it is written. -/
def CompiledRule.reread (r : CompiledRule) : CompiledRule := if r.mode1.isNone then {} else r

mutual

/-- A signal as it is read back. -/
def CompiledSignal.reread : CompiledSignal → CompiledSignal
  | .mk signalType key typeCode args children rule marketNumber required symbol =>
    .mk signalType key typeCode args (rereadChildren children) rule.reread marketNumber required
      symbol

def rereadChildren : Option (List CompiledSignal) → Option (List CompiledSignal)
  | none => none
  | some signals => some (rereadSignals signals)

def rereadSignals : List CompiledSignal → List CompiledSignal
  | [] => []
  | s :: signals => s.reread :: rereadSignals signals

end

theorem rereadSignals_eq {signals : List CompiledSignal} :
    rereadSignals signals = signals.map CompiledSignal.reread := by
  induction signals with
  | nil => rfl
  | cons s signals ih => rw [rereadSignals, ih, List.map_cons]

theorem CompiledSignal.reread_eq {s : CompiledSignal} :
    s.reread = { s with children := s.children.map (List.map reread), rule := s.rule.reread } := by
  obtain ⟨signalType, key, typeCode, args, children, rule, marketNumber, required, symbol⟩ := s
  rw [reread]
  cases children with
  | none => rfl
  | some signals => rw [rereadChildren, rereadSignals_eq, Option.map_some]

namespace Decode

theorem float_of_finite {x : Binary64} {door : Door} (hx : x.isFinite) :
    float door (JsonTree.float x).finite = .ok x := by
  rw [JsonTree.finite, if_pos hx]
  rfl

theorem compiledArg_eq_ok_iff {v : Json} {a : CompiledArg} :
    compiledArg v = .ok a ↔ ∃ fields, v = .object fields ∧
      ArgField.key.required text fields = .ok a.key ∧
      ArgField.value.required (float .document) fields = .ok a.value ∧
      ArgField.baseValue.required (float .document) fields = .ok a.baseValue ∧
      ArgField.base.required (float .document) fields = .ok a.base ∧
      ArgField.last.required (float .document) fields = .ok a.last ∧
      ArgField.min.required (float .document) fields = .ok a.min ∧
      ArgField.max.required (float .document) fields = .ok a.max ∧
      ArgField.step.withDefault (.ofInt 0) (float .document) fields = .ok a.step ∧
      ArgField.type.withDefault 0 integer fields = .ok a.type ∧
      ArgField.valueType.withDefault 0 integer fields = .ok a.valueType := by
  obtain ⟨key, value, baseValue, base, last, min, max, step, type, valueType⟩ := a
  rw [compiledArg, object_eq_ok_iff]
  refine exists_congr fun fields => and_congr_right fun _ => ?_
  simp only [Decoded.seq_eq_ok_iff, Decoded.map_eq_ok_iff, ↓existsAndEq, and_true, and_assoc,
    CompiledArg.mk.injEq]

theorem symbolRef_eq_ok_iff {v : Json} {s : SymbolRef} :
    symbolRef v = .ok s ↔ ∃ fields, v = .object fields ∧
      SymbolField.fn.nullable text fields = .ok s.fn ∧
      SymbolField.genMode.withDefault 0 integer fields = .ok s.genMode ∧
      SymbolField.id.nullable text fields = .ok s.id ∧
      SymbolField.isSs.withDefault false bool fields = .ok s.isSs ∧
      SymbolField.name.withDefault ({} : SymbolRef).name text fields = .ok s.name ∧
      SymbolField.shift.withDefault 0 integer fields = .ok s.shift ∧
      SymbolField.timeframe.withDefault ({} : SymbolRef).timeframe text fields =
        .ok s.timeframe ∧
      SymbolField.var.nullable text fields = .ok s.var := by
  obtain ⟨fn, genMode, id, isSs, name, shift, timeframe, var⟩ := s
  rw [symbolRef, object_eq_ok_iff]
  refine exists_congr fun fields => and_congr_right fun _ => ?_
  simp only [Decoded.seq_eq_ok_iff, Decoded.map_eq_ok_iff, ↓existsAndEq, and_true, and_assoc,
    SymbolRef.mk.injEq]

theorem compiledArg_toJson {a : CompiledArg} (h : ∀ x ∈ a.floats, x.isFinite) :
    compiledArg (a.toJson .wire).finite = .ok a := by
  simp only [CompiledArg.floats, List.forall_mem_cons, List.not_mem_nil, false_implies,
    implies_true, and_true] at h
  obtain ⟨hvalue, hbaseValue, hbase, hlast, hmin, hmax, hstep⟩ := h
  have hfloat : ∀ {name : FieldName} {fields : List (String × Json)} {x : Binary64},
      x.isFinite → name.find? fields = some (name.wire, (JsonTree.float x).finite) →
      name.required (float .document) fields = .ok x :=
    fun hx hf => (FieldName.required_of_find? hf).2 (float_of_finite hx)
  rw [CompiledArg.toJson, JsonTree.finite_object, compiledArg_eq_ok_iff]
  exact ⟨_, rfl, (FieldName.required_of_find? (v := .text a.key) rfl).2 rfl, hfloat hvalue rfl,
    hfloat hbaseValue rfl, hfloat hbase rfl, hfloat hlast rfl, hfloat hmin rfl, hfloat hmax rfl,
    (FieldName.withDefault_of_find? rfl).2 (float_of_finite hstep),
    (FieldName.withDefault_of_find? (v := .int a.type) rfl).2 rfl,
    (FieldName.withDefault_of_find? (v := .int a.valueType) rfl).2 rfl⟩

theorem symbolRef_toJson {s : SymbolRef} : symbolRef (s.toJson .wire).finite = .ok s := by
  rw [SymbolRef.toJson, JsonTree.finite_object, symbolRef_eq_ok_iff]
  exact ⟨_, rfl, nullable_text rfl,
    (FieldName.withDefault_of_find? (v := .int s.genMode) rfl).2 rfl, nullable_text rfl,
    (FieldName.withDefault_of_find? (v := .bool s.isSs) rfl).2 rfl,
    (FieldName.withDefault_of_find? (v := .text s.name) rfl).2 rfl,
    (FieldName.withDefault_of_find? (v := .int s.shift) rfl).2 rfl,
    (FieldName.withDefault_of_find? (v := .text s.timeframe) rfl).2 rfl, nullable_text rfl⟩

section

variable {s : CompiledSignal}

/-- Every field that is written is found again, and the others are absent. -/
theorem find?_wireFields :
    CompiledField.signalType.find? s.wireFields = some ("$type", .text s.signalType) ∧
    CompiledField.key.find? s.wireFields = some ("Key", .text s.key) ∧
    CompiledField.typeCode.find? s.wireFields = some ("Type", .int s.typeCode) ∧
    CompiledField.args.find? s.wireFields = (s.args.map fun args =>
      ("Args", .array (args.map fun a => (a.toJson .wire).finite))) ∧
    CompiledField.children.find? s.wireFields = (s.children.map fun signals =>
      ("Children", .array (signals.map CompiledSignal.toWire))) ∧
    CompiledField.marketNumber.find? s.wireFields = some ("MktN", .int s.marketNumber) ∧
    CompiledField.required.find? s.wireFields = some ("Rqd", .bool s.required) ∧
    CompiledField.symbol.find? s.wireFields =
      some ("SymbolId", (s.symbol.toJson .wire).finite) := by
  obtain ⟨signalType, key, typeCode, args, children, rule, marketNumber, required, symbol⟩ := s
  obtain ⟨mode1, operation1, crossOp, mode2, operation2, entry, exit⟩ := rule
  cases args <;> cases children <;> cases mode1 <;>
    exact ⟨rfl, rfl, rfl, rfl, rfl, rfl, rfl, rfl⟩

theorem compiledRule_wireFields : compiledRule s.wireFields = .ok s.rule.reread := by
  obtain ⟨signalType, key, typeCode, args, children, rule, marketNumber, required, symbol⟩ := s
  obtain ⟨mode1, operation1, crossOp, mode2, operation2, entry, exit⟩ := rule
  unfold compiledRule
  cases mode1 with
  | none => cases args <;> cases children <;> rfl
  | some mode1 =>
    cases args <;> cases children <;>
    · rw [nullable_integer (o := some mode1) rfl, nullable_text (o := operation1) rfl,
        nullable_integer (o := crossOp) rfl, nullable_integer (o := mode2) rfl,
        nullable_text (o := operation2) rfl, nullable_bool (o := entry) rfl,
        nullable_bool (o := exit) rfl]
      rfl

end

theorem compiledSignal_toWire {s : CompiledSignal} (h : s.AllFinite) :
    compiledSignal s.toWire = .ok s.reread := by
  induction s using CompiledSignal.induct with
  | node s ih =>
    obtain ⟨hown, hbelow⟩ := CompiledSignal.everywhere_iff.1 h
    obtain ⟨hsignalType, hkey, htypeCode, hargs, hchildren, hmarketNumber, hrequired, hsymbol⟩ :=
      find?_wireFields (s := s)
    have hargList : CompiledField.args.nullable (list compiledArg) s.wireFields = .ok s.args := by
      cases ha : s.args with
      | none => exact FieldName.nullable_of_absent (by rw [hargs, ha, Option.map_none])
      | some args =>
        rw [ha] at hargs hown
        refine (FieldName.nullable_of_find? hargs nofun).2 ⟨args, ?_, rfl⟩
        rw [list, indexed_eq_ok_iff, List.forall₂_map_left_iff, List.forall₂_same]
        exact fun a ha => compiledArg_toJson (hown a ha)
    have hchildList : CompiledField.children.withDefault none compiledList s.wireFields =
        .ok (s.children.map (List.map CompiledSignal.reread)) := by
      cases hc : s.children with
      | none => exact FieldName.withDefault_of_absent (by rw [hchildren, hc, Option.map_none])
      | some signals =>
        rw [hc] at hchildren ih hbelow
        refine (FieldName.withDefault_of_find? hchildren).2 (compiledList_array_eq_ok_iff.2 ?_)
        refine ⟨_, rfl, ?_⟩
        rw [List.forall₂_map_left_iff, List.forall₂_map_right_iff, List.forall₂_same]
        exact fun t ht => ih t ht (hbelow t ht)
    rw [CompiledSignal.toWire_eq, CompiledSignal.reread_eq, compiledSignal_object_eq_ok_iff]
    exact ⟨(FieldName.required_of_find? hsignalType).2 rfl,
      (FieldName.required_of_find? hkey).2 rfl, (FieldName.required_of_find? htypeCode).2 rfl,
      hargList, hchildList, compiledRule_wireFields,
      (FieldName.withDefault_of_find? hmarketNumber).2 rfl,
      (FieldName.withDefault_of_find? hrequired).2 rfl,
      (FieldName.withDefault_of_find? hsymbol).2 symbolRef_toJson⟩

end Decode

end TradingSignals
