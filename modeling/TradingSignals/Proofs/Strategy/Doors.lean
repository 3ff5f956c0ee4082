import TradingSignals.Proofs.Json.Settled
import TradingSignals.Proofs.Strategy.Decoding

namespace TradingSignals

/-- What two decoders both take they take as the same, the first one as it was written and the
other one with each key once. -/
def AgreesAt {α : Type} (f g : Json → Decoded α) (v : Json) : Prop :=
  ∀ a b, f v = .ok a → g v.settled = .ok b → b = a

namespace FieldName

variable {α : Type} {name : FieldName} {f g : Json → Decoded α} {fields : List (String × Json)}

theorem find?_settledFields :
    name.find? (settledFields [] fields) =
      (name.find? fields).map fun x => (x.1, x.2.settled) := by
  unfold find?
  rw [lastField?_settledFields, lastField?_settledFields]
  cases lastField? name.wire fields with
  | some v => rfl
  | none =>
    cases lastField? name.plain fields with
    | some v => rfl
    | none => rfl

theorem withDefault_agrees (h : ∀ x ∈ fields, AgreesAt f g x.2) {a x y : α}
    (hx : name.withDefault a f fields = .ok x)
    (hy : name.withDefault a g (settledFields [] fields) = .ok y) : y = x := by
  have hsettled : name.find? (settledFields [] fields) = _ := find?_settledFields
  cases hf : name.find? fields with
  | none =>
    rw [hf] at hsettled
    rw [withDefault_of_absent hf] at hx
    rw [withDefault_of_absent hsettled] at hy
    exact (Decoded.ok.inj hy).symm.trans (Decoded.ok.inj hx)
  | some found =>
    rw [hf] at hsettled
    exact h found (mem_of_find? hf) x y ((withDefault_of_find? hf).1 hx)
      ((withDefault_of_find? hsettled).1 hy)

theorem nullable_agrees (h : ∀ x ∈ fields, AgreesAt f g x.2) {x y : Option α}
    (hx : name.nullable f fields = .ok x)
    (hy : name.nullable g (settledFields [] fields) = .ok y) : y = x := by
  have hsettled : name.find? (settledFields [] fields) = _ := find?_settledFields
  cases hf : name.find? fields with
  | none =>
    rw [hf] at hsettled
    rw [nullable_of_absent hf] at hx
    rw [nullable_of_absent hsettled] at hy
    exact (Decoded.ok.inj hy).symm.trans (Decoded.ok.inj hx)
  | some found =>
    obtain ⟨spelling, v⟩ := found
    rw [hf] at hsettled
    by_cases hnull : v = .null
    · subst hnull
      rw [nullable_of_null hf] at hx
      rw [nullable_of_null hsettled] at hy
      exact (Decoded.ok.inj hy).symm.trans (Decoded.ok.inj hx)
    · have hnull' : v.settled ≠ .null := by
        cases v with
        | null => exact absurd rfl hnull
        | array items => rw [JsonTree.settled_array]; nofun
        | object more => rw [JsonTree.settled_object]; nofun
        | _ => nofun
      obtain ⟨a, ha, rfl⟩ := (nullable_of_find? hf hnull).1 hx
      obtain ⟨b, hb, rfl⟩ := (nullable_of_find? hsettled hnull').1 hy
      exact congrArg some (h (spelling, v) (mem_of_find? hf) a b ha hb)

end FieldName

namespace Decode

variable {v : Json}

/-- A decoder that takes no containers agrees with itself. -/
theorem agreesAt_self {α : Type} {f : Json → Decoded α}
    (harray : ∀ items a, f (.array items) ≠ .ok a)
    (hobject : ∀ fields a, f (.object fields) ≠ .ok a) (v : Json) : AgreesAt f f v := by
  intro a b ha hb
  cases v with
  | array items => exact absurd ha (harray items a)
  | object fields => exact absurd ha (hobject fields a)
  | _ => exact Decoded.ok.inj (hb.symm.trans ha)

theorem text_agrees (v : Json) : AgreesAt text text v := agreesAt_self nofun nofun v

theorem integer_agrees (v : Json) : AgreesAt integer integer v := agreesAt_self nofun nofun v

/-- A whole number that one of them takes for infinite the other one does not take. -/
theorem float_agrees (v : Json) : AgreesAt (float .document) (float .body) v := by
  intro a b ha hb
  cases v with
  | int n =>
    rw [float, if_pos (Or.inl rfl)] at ha
    rw [JsonTree.settled, float] at hb
    split at hb
    · exact Decoded.ok.inj (hb.symm.trans ha)
    · cases hb
    · simp
    · simp
  | array items => cases ha
  | object fields => cases ha
  | _ => exact Decoded.ok.inj (hb.symm.trans ha)

/-- Repeated arguments are merged by the one decoder and were merged before the other one. -/
theorem args_agrees (v : Json) : AgreesAt args args v := by
  intro a b ha hb
  cases v with
  | object fields =>
    rw [JsonTree.settled_object] at hb
    obtain ⟨written, hw, rfl⟩ := args_object_eq_ok_iff.1 ha
    obtain ⟨merged, hm, rfl⟩ := args_object_eq_ok_iff.1 hb
    rw [scalars_eq_ok_iff] at hw hm
    have hvalues : ∀ {fields : List (String × Json)} {entries : List (String × Scalar)},
        List.Forall₂ (fun f e => e.1 = f.1 ∧ scalar f.2 = .ok e.2) fields entries →
          fields.map (Prod.map id fun v => (scalar v).value?) = entries.map (Prod.map id some) := by
      intro fields entries h
      induction h with
      | nil => rfl
      | cons hf _ ih =>
        rw [List.map_cons, List.map_cons, ih, Prod.map, Prod.map, hf.1, hf.2]
        rfl
    -- no argument is a container, so that there is nothing to be merged inside of one
    have hplain : fields.map (Prod.map id fun v => (scalar v.settled).value?) =
        fields.map (Prod.map id fun v => (scalar v).value?) := by
      apply List.map_congr_left
      intro f hf
      obtain ⟨i, hi⟩ := List.mem_iff_getElem?.1 hf
      obtain ⟨e, -, -, he⟩ := exists_of_rel (rel_getElem? hw i) hi
      obtain ⟨k, v⟩ := f
      cases v with
      | array items => cases he
      | object fields => cases he
      | _ => rfl
    have hmerged : merged.map (Prod.map id some) =
        (written.foldl (fun done e => putField done e.1 e.2) []).map (Prod.map id some) := by
      calc merged.map (Prod.map id some)
          = (settledFields [] fields).map (Prod.map id fun v => (scalar v).value?) :=
            (hvalues hm).symm
        _ = (fields.map (Prod.map id fun v => (scalar v.settled).value?)).foldl
              (fun done e => putField done e.1 e.2) [] := by
            rw [settledFields_eq, map_foldl_putField Function.injective_id, List.map_map,
              List.map_nil]
            rfl
        _ = (written.foldl (fun done e => putField done e.1 e.2) []).map (Prod.map id some) := by
            rw [hplain, hvalues hw, map_foldl_putField Function.injective_id, List.map_nil]
    have hinj : ∀ x y : String × Scalar, Prod.map id some x = Prod.map id some y → x = y := by
      rintro ⟨k, x⟩ ⟨k', y⟩ h
      cases h
      rfl
    rw [(List.map_inj_right hinj).1 hmerged]
    apply foldl_putField_of_nodup
    exact (foldl_putField_sound written [] List.nodup_nil).1
  | _ => cases ha

theorem rule_agrees {fields : List (String × Json)} {a b : RuleFields}
    (ha : rule fields = .ok a) (hb : rule (settledFields [] fields) = .ok b) : b = a := by
  obtain ⟨mode1, operation1, crossOp, mode2, operation2⟩ := a
  obtain ⟨mode1', operation1', crossOp', mode2', operation2'⟩ := b
  simp only [rule, Decoded.seq_eq_ok_iff, Decoded.map_eq_ok_iff, ↓existsAndEq, and_true, and_assoc,
    RuleFields.mk.injEq] at ha hb
  have htext : ∀ x ∈ fields, AgreesAt text text x.2 := fun x _ => text_agrees x.2
  obtain ⟨ha1, ha2, ha3, ha4, ha5⟩ := ha
  obtain ⟨hb1, hb2, hb3, hb4, hb5⟩ := hb
  rw [FieldName.nullable_agrees htext ha1 hb1, FieldName.nullable_agrees htext ha2 hb2,
    FieldName.nullable_agrees htext ha3 hb3, FieldName.nullable_agrees htext ha4 hb4,
    FieldName.nullable_agrees htext ha5 hb5]

theorem signalItems_agrees {room room' : Option Nat} {items : List Json}
    (h : ∀ v ∈ items, AgreesAt (signal room) (signal room') v) {nodes more : List SignalNode}
    {i j : Nat} (ha : signalItems room i items = .ok nodes)
    (hb : signalItems room' j (items.map JsonTree.settled) = .ok more) : more = nodes := by
  rw [signalItems_eq_ok_iff] at ha hb
  rw [List.forall₂_map_left_iff] at hb
  induction ha generalizing more with
  | nil =>
    cases hb
    rfl
  | cons hv _ ih =>
    rw [List.forall_mem_cons] at h
    cases hb with
    | cons hv' hb => rw [h.1 _ _ hv hv', ih h.2 hb]

/-- How deep the decoders look makes no difference to what both take. -/
theorem signal_agrees (v : Json) :
    (∀ room room', AgreesAt (signal room) (signal room') v) ∧
      ∀ room room', AgreesAt (signalList room) (signalList room') v := by
  induction v using JsonTree.induct with
  | array items ih =>
    refine ⟨?_, ?_⟩
    · intro room room' a b ha
      obtain ⟨fields, hv⟩ := exists_object_of_signal ha
      cases hv
    · intro room room' a b ha hb
      rw [JsonTree.settled_array, signalList_array] at hb
      rw [signalList_array] at ha
      exact signalItems_agrees (fun v hv => (ih v hv).1 room room') ha hb
  | object fields ih =>
    refine ⟨?_, ?_⟩
    · intro room room' a b ha hb
      rw [JsonTree.settled_object] at hb
      have hroom : ∀ {room fields n}, signal room (.object fields) = .ok n → room ≠ some 0 := by
        rintro room fields n h rfl
        rw [signal, if_pos rfl] at h
        cases h
      obtain ⟨hid, hargs, hchildren, hrule⟩ := (signal_object_eq_ok_iff (hroom ha)).1 ha
      obtain ⟨hid', hargs', hchildren', hrule'⟩ := (signal_object_eq_ok_iff (hroom hb)).1 hb
      obtain ⟨id, args, children, rule⟩ := a
      obtain ⟨id', args', children', rule'⟩ := b
      have heq := FieldName.withDefault_agrees (fun x _ => text_agrees x.2) hid hid'
      have heqArgs := FieldName.withDefault_agrees (fun x _ => args_agrees x.2) hargs hargs'
      have heqChildren := FieldName.withDefault_agrees
        (fun x hx => (ih x hx).2 _ _) hchildren hchildren'
      have heqRule := rule_agrees hrule hrule'
      dsimp only at heq heqArgs heqChildren heqRule
      rw [heq, heqArgs, heqChildren, heqRule]
    · intro room room' a b ha
      obtain ⟨items, hv⟩ := exists_array_of_signalList ha
      cases hv
  | _ =>
    refine ⟨?_, ?_⟩
    · intro room room' a b ha
      obtain ⟨fields, hv⟩ := exists_object_of_signal ha
      cases hv
    · intro room room' a b ha
      obtain ⟨items, hv⟩ := exists_array_of_signalList ha
      cases hv

theorem settings_agrees (v : Json) : AgreesAt (settings .document) (settings .body) v := by
  intro a b ha hb
  obtain ⟨fields, rfl, ha1, ha2, ha3, ha4, ha5, ha6, ha7, ha8, ha9⟩ := settings_eq_ok_iff.1 ha
  rw [JsonTree.settled_object] at hb
  obtain ⟨fields', hf, hb1, hb2, hb3, hb4, hb5, hb6, hb7, hb8, hb9⟩ := settings_eq_ok_iff.1 hb
  cases hf
  have htext : ∀ x ∈ fields, AgreesAt text text x.2 := fun x _ => text_agrees x.2
  have hinteger : ∀ x ∈ fields, AgreesAt integer integer x.2 := fun x _ => integer_agrees x.2
  have hfloat : ∀ x ∈ fields, AgreesAt (float .document) (float .body) x.2 :=
    fun x _ => float_agrees x.2
  obtain ⟨symbol, timeframe, startDate, endDate, size, positions, days, entry, exit⟩ := a
  obtain ⟨symbol', timeframe', startDate', endDate', size', positions', days', entry', exit'⟩ := b
  rw [Settings.mk.injEq]
  exact ⟨FieldName.nullable_agrees htext ha1 hb1, FieldName.nullable_agrees htext ha2 hb2,
    FieldName.nullable_agrees htext ha3 hb3, FieldName.nullable_agrees htext ha4 hb4,
    FieldName.nullable_agrees hfloat ha5 hb5, FieldName.nullable_agrees hinteger ha6 hb6,
    FieldName.nullable_agrees hinteger ha7 hb7, FieldName.nullable_agrees htext ha8 hb8,
    FieldName.nullable_agrees htext ha9 hb9⟩

theorem strategy_agrees (v : Json) : AgreesAt (strategy .document) (strategy .body) v := by
  intro a b ha hb
  obtain ⟨fields, rfl, ha1, ha2, ha3, ha4⟩ := strategy_eq_ok_iff.1 ha
  rw [JsonTree.settled_object] at hb
  obtain ⟨fields', hf, hb1, hb2, hb3, hb4⟩ := strategy_eq_ok_iff.1 hb
  cases hf
  have hlist : ∀ x ∈ fields,
      AgreesAt (signalList (levels .document)) (signalList (levels .body)) x.2 :=
    fun x _ => (signal_agrees x.2).2 _ _
  obtain ⟨entry, exit, settings, question⟩ := a
  obtain ⟨entry', exit', settings', question'⟩ := b
  rw [Strategy.mk.injEq]
  exact ⟨FieldName.withDefault_agrees hlist ha1 hb1, FieldName.withDefault_agrees hlist ha2 hb2,
    FieldName.nullable_agrees (fun x _ => settings_agrees x.2) ha3 hb3,
    FieldName.nullable_agrees (fun x _ => text_agrees x.2) ha4 hb4⟩

theorem strategyDocument_agrees (v : Json) :
    AgreesAt (strategyDocument .document) (strategyDocument .body) v := by
  intro a b ha hb
  obtain ⟨fields, rfl, ha1, ha2⟩ := strategyDocument_eq_ok_iff.1 ha
  rw [JsonTree.settled_object] at hb
  obtain ⟨fields', hf, hb1, hb2⟩ := strategyDocument_eq_ok_iff.1 hb
  cases hf
  obtain ⟨version, strategy⟩ := a
  obtain ⟨version', strategy'⟩ := b
  rw [StrategyDocument.mk.injEq]
  exact ⟨FieldName.withDefault_agrees (fun x _ => text_agrees x.2) ha1 hb1,
    FieldName.nullable_agrees (fun x _ => strategy_agrees x.2) ha2 hb2⟩

end Decode

end TradingSignals
