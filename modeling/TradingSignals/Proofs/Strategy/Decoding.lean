import TradingSignals.Proofs.Json.Value
import TradingSignals.Proofs.Number.Digits
import TradingSignals.Proofs.Related
import TradingSignals.Proofs.Schema.Decoded
import TradingSignals.Proofs.Strategy.Position
import TradingSignals.Strategy.Decoding

namespace TradingSignals

namespace Decode

variable {room : Option Nat} {fields : List (String × Json)}

theorem lastSignals_eq {name : String} :
    lastSignals room name fields =
      (lastField? name fields).map fun v => (signalList room v).inside (.key name) := by
  induction fields with
  | nil => rfl
  | cons f fields ih =>
    obtain ⟨k, v⟩ := f
    rw [lastSignals, ih, lastField?]
    cases lastField? name fields with
    | some w => rfl
    | none =>
      by_cases hk : k == name
      · rw [eq_of_beq hk]
        simp
      · simp [hk]

/-- A signal is decoded field by field, its children like any other field. -/
theorem signal_object (hr : room ≠ some 0) :
    signal room (.object fields) =
      SignalNode.mk <$> SignalField.catalogId.withDefault "" text fields
        <*> SignalField.args.withDefault [] args fields
        <*> SignalField.children.withDefault [] (signalList (room.map (· - 1))) fields
        <*> rule fields := by
  rw [signal, if_neg hr, lastSignals_eq, lastSignals_eq, FieldName.withDefault,
    FieldName.withDefault, FieldName.withDefault]
  congr 2
  simp only [FieldName.find?]
  cases lastField? SignalField.children.wire fields with
  | some v => rfl
  | none =>
    cases lastField? SignalField.children.plain fields with
    | some v => rfl
    | none => rfl

theorem signal_object_eq_ok_iff (hr : room ≠ some 0) {n : SignalNode} :
    signal room (.object fields) = .ok n ↔
      SignalField.catalogId.withDefault "" text fields = .ok n.catalogId ∧
      SignalField.args.withDefault [] args fields = .ok n.args ∧
      SignalField.children.withDefault [] (signalList (room.map (· - 1))) fields =
        .ok n.children ∧
      rule fields = .ok n.rule := by
  obtain ⟨id, args, children, rule⟩ := n
  rw [signal_object hr]
  simp only [Decoded.seq_eq_ok_iff, Decoded.map_eq_ok_iff, ↓existsAndEq, and_true, and_assoc,
    SignalNode.mk.injEq]

theorem signalItems_eq_indexed {items : List Json} {i : Nat} :
    signalItems room i items = indexed (signal room) i items := by
  induction items generalizing i with
  | nil => rfl
  | cons v items ih => rw [signalItems, ih, indexed]

theorem signalItems_eq_ok_iff {items : List Json} {nodes : List SignalNode} {i : Nat} :
    signalItems room i items = .ok nodes ↔
      List.Forall₂ (fun v n => signal room v = .ok n) items nodes := by
  rw [signalItems_eq_indexed, indexed_eq_ok_iff]

theorem signalList_array {items : List Json} :
    signalList room (.array items) = signalItems room 0 items := by
  rw [signalList]

theorem exists_object_of_signal {v : Json} {n : SignalNode} (h : signal room v = .ok n) :
    ∃ fields, v = .object fields := by
  cases v with
  | object fields => exact ⟨fields, rfl⟩
  | _ =>
    rw [signal] at h
    · cases h
    · simp

theorem exists_array_of_signalList {v : Json} {nodes : List SignalNode}
    (h : signalList room v = .ok nodes) : ∃ items, v = .array items := by
  cases v with
  | array items => exact ⟨items, rfl⟩
  | _ =>
    rw [signalList] at h
    · cases h
    · simp

theorem scalars_eq_ok_iff {entries : List (String × Scalar)} :
    scalars fields = .ok entries ↔
      List.Forall₂ (fun f e => e.1 = f.1 ∧ scalar f.2 = .ok e.2) fields entries := by
  induction fields generalizing entries with
  | nil => rw [scalars, List.forall₂_nil_left_iff, Decoded.ok.injEq, eq_comm]
  | cons f fields ih =>
    obtain ⟨k, v⟩ := f
    rw [scalars, List.forall₂_cons_left_iff]
    simp only [Decoded.seq_eq_ok_iff, Decoded.map_eq_ok_iff, Decoded.inside_eq_ok_iff, ih]
    constructor
    · rintro ⟨_, rest, ⟨x, hx, rfl⟩, hs, rfl⟩
      exact ⟨(k, x), rest, ⟨rfl, hx⟩, hs, rfl⟩
    · rintro ⟨⟨k', x⟩, rest, ⟨rfl, hx⟩, hs, rfl⟩
      exact ⟨_, rest, ⟨x, hx, rfl⟩, hs, rfl⟩

theorem args_object_eq_ok_iff {entries : List (String × Scalar)} :
    args (.object fields) = .ok entries ↔ ∃ written, scalars fields = .ok written ∧
      written.foldl (fun done e => putField done e.1 e.2) [] = entries := by
  rw [args]
  exact Decoded.map_eq_ok_iff

end Decode

theorem forestHeight_le_iff {nodes : List SignalNode} {k : Nat} :
    forestHeight nodes ≤ k ↔ ∀ n ∈ nodes, n.height ≤ k := by
  induction nodes with
  | nil => simp [forestHeight]
  | cons n nodes ih => rw [forestHeight, Nat.max_le, ih, List.forall_mem_cons]

theorem height_le_forestHeight {nodes : List SignalNode} {n : SignalNode} (hn : n ∈ nodes) :
    n.height ≤ forestHeight nodes :=
  forestHeight_le_iff.1 (Nat.le_refl _) n hn

/-- Holds of a signal and of all below it. -/
def SignalNode.Everywhere (P : SignalNode → Prop) (n : SignalNode) : Prop :=
  ∀ p m, n.subtree? p = some m → P m

theorem SignalNode.everywhere_mk {P : SignalNode → Prop} {id : String}
    {args : List (String × Scalar)} {children : List SignalNode} {rule : RuleFields} :
    (mk id args children rule).Everywhere P ↔
      P (mk id args children rule) ∧ ∀ n ∈ children, n.Everywhere P := by
  constructor
  · intro h
    refine ⟨h [] _ (subtree?_nil _), ?_⟩
    intro n hn p m hm
    obtain ⟨i, hi⟩ := List.mem_iff_getElem?.1 hn
    exact h (i :: p) m (subtree?_cons_eq_some.2 ⟨n, hi, hm⟩)
  · intro h p m hm
    cases p with
    | nil =>
      rw [subtree?_nil, Option.some.injEq] at hm
      exact hm ▸ h.1
    | cons i p =>
      obtain ⟨n, hi, hm⟩ := subtree?_cons_eq_some.1 hm
      exact h.2 n (List.mem_of_getElem? hi) p m hm

/-- What an argument in a document can be: no truth value, and no whole number too long for one. -/
def Scalar.Written : Scalar → Prop
  | .int v => (intText v).length ≤ maxDigits
  | .float _ | .text _ => True
  | .flag _ => False

/-- Arguments as a document gives them: every key once. -/
structure SignalNode.ArgsWritten (n : SignalNode) : Prop where
  keys : (n.args.map Prod.fst).Nodup
  values : ∀ a ∈ n.args, a.2.Written

namespace Decode

theorem written_of_scalar {v : Json} {x : Scalar} {room : Nat} (hfit : v.FitsIn room)
    (h : scalar v = .ok x) : x.Written := by
  unfold scalar at h
  split at h
  · cases h
    exact hfit.ints _ (by simp [JsonTree.ints])
  · cases h
    trivial
  · cases h
    trivial
  · cases h

theorem written_of_args {v : Json} {entries : List (String × Scalar)} {room : Nat}
    (hfit : v.FitsIn room) (h : args v = .ok entries) :
    (entries.map Prod.fst).Nodup ∧ ∀ a ∈ entries, a.2.Written := by
  unfold args at h
  split at h
  · next fields =>
    obtain ⟨room, rfl⟩ := hfit.pos_of_object
    obtain ⟨written, hw, rfl⟩ := args_object_eq_ok_iff.1 h
    obtain ⟨hn, hm⟩ := foldl_putField_sound written [] List.nodup_nil
    refine ⟨hn, ?_⟩
    intro a ha
    have ha : a ∈ written := (hm a ha).resolve_left List.not_mem_nil
    obtain ⟨f, hf, -, hx⟩ := exists_mem_of_forall₂ (scalars_eq_ok_iff.1 hw) ha
    exact written_of_scalar (JsonTree.fitsIn_object_iff.1 hfit f hf) hx
  · cases h

/-- One level of the text holds a list of signals. -/
theorem sound_of_signalItems {items : List Json} {nodes : List SignalNode} {room : Nat}
    (hone : ∀ v ∈ items, ∀ n, signal none v = .ok n →
      2 * n.height ≤ room + 1 ∧ n.Everywhere SignalNode.ArgsWritten)
    (h : signalList none (.array items) = .ok nodes) :
    2 * forestHeight nodes ≤ room + 1 ∧ ∀ n ∈ nodes, n.Everywhere SignalNode.ArgsWritten := by
  rw [signalList_array, signalItems_eq_ok_iff] at h
  have hnode : ∀ n ∈ nodes, 2 * n.height ≤ room + 1 ∧ n.Everywhere SignalNode.ArgsWritten := by
    intro n hn
    obtain ⟨v, hv, hs⟩ := exists_mem_of_forall₂ h hn
    exact hone v hv n hs
  have hforest : forestHeight nodes ≤ (room + 1) / 2 := by
    rw [forestHeight_le_iff]
    intro n hn
    have hle := (hnode n hn).1
    omega
  exact ⟨by omega, fun n hn => (hnode n hn).2⟩

/-- Another level holds the fields of a signal. -/
theorem sound_of_signalFields {fields : List (String × Json)} {n : SignalNode} {room : Nat}
    (hfit : ∀ f ∈ fields, f.2.FitsIn room)
    (hlist : ∀ f ∈ fields, ∀ nodes, signalList none f.2 = .ok nodes →
      2 * forestHeight nodes ≤ room ∧ ∀ n ∈ nodes, n.Everywhere SignalNode.ArgsWritten)
    (h : signal none (.object fields) = .ok n) :
    2 * n.height ≤ room + 2 ∧ n.Everywhere SignalNode.ArgsWritten := by
  obtain ⟨id, entries, children, r⟩ := n
  obtain ⟨-, hargs, hchildren, -⟩ := (signal_object_eq_ok_iff (by simp)).1 h
  have hown : SignalNode.ArgsWritten ⟨id, entries, children, r⟩ := by
    rcases FieldName.eq_or_exists_of_withDefault hargs with he | ⟨f, hf, ha⟩
    · have he : entries = [] := he
      subst he
      exact ⟨List.nodup_nil, fun a ha => absurd ha List.not_mem_nil⟩
    · obtain ⟨hkeys, hvalues⟩ := written_of_args (hfit f hf) ha
      exact ⟨hkeys, hvalues⟩
  have hbelow : 2 * forestHeight children ≤ room ∧
      ∀ n ∈ children, n.Everywhere SignalNode.ArgsWritten := by
    rcases FieldName.eq_or_exists_of_withDefault hchildren with he | ⟨f, hf, hc⟩
    · have he : children = [] := he
      subst he
      exact ⟨Nat.zero_le room, fun n hn => absurd hn List.not_mem_nil⟩
    · exact hlist f hf children hc
  refine ⟨?_, SignalNode.everywhere_mk.2 ⟨hown, hbelow.2⟩⟩
  rw [SignalNode.height]
  omega

/-- A signal takes two levels of its text, and the leaves may take one. -/
theorem sound_of_signal {v : Json} {room : Nat} (hfit : v.FitsIn room) :
    (∀ n, signal none v = .ok n →
      2 * n.height ≤ room + 1 ∧ n.Everywhere SignalNode.ArgsWritten) ∧
    (∀ nodes, signalList none v = .ok nodes →
      2 * forestHeight nodes ≤ room ∧ ∀ n ∈ nodes, n.Everywhere SignalNode.ArgsWritten) := by
  induction v using JsonTree.induct generalizing room with
  | array items ih =>
    constructor
    · intro n h
      obtain ⟨fields, hv⟩ := exists_object_of_signal h
      cases hv
    · intro nodes h
      obtain ⟨room, rfl⟩ := hfit.pos_of_array
      rw [JsonTree.fitsIn_array_iff] at hfit
      exact sound_of_signalItems (fun v hv => (ih v hv (hfit v hv)).1) h
  | object fields ih =>
    constructor
    · intro n h
      obtain ⟨room, rfl⟩ := hfit.pos_of_object
      rw [JsonTree.fitsIn_object_iff] at hfit
      exact sound_of_signalFields hfit (fun f hf => (ih f hf (hfit f hf)).2) h
    · intro nodes h
      obtain ⟨items, hv⟩ := exists_array_of_signalList h
      cases hv
  | _ =>
    constructor
    · intro n h
      obtain ⟨fields, hv⟩ := exists_object_of_signal h
      cases hv
    · intro nodes h
      obtain ⟨items, hv⟩ := exists_array_of_signalList h
      cases hv

theorem written_of_readPlainInteger {cs : List Char} {n : Int}
    (h : readPlainInteger cs = .value n) : (intText n).length ≤ maxDigits := by
  have key : ∀ (negative : Bool) (body : List Char),
      (if (body.takeWhile Char.isDigit).isEmpty || ((body.takeWhile Char.isDigit).head? == some '0'
            && (body.takeWhile Char.isDigit).length != 1) then IntegerText.unreadable
        else if maxDigits < negative.toNat + (body.takeWhile Char.isDigit).length then .tooLong
        else if (body.takeWhile Char.isDigit).length < body.length then .unreadable
        else .value (if negative then -(digitsValue (body.takeWhile Char.isDigit) : Int)
          else digitsValue (body.takeWhile Char.isDigit))) = .value n →
      (intText n).length ≤ maxDigits := by
    intro negative body h
    generalize hds : body.takeWhile Char.isDigit = ds at h
    have hd : ∀ c ∈ ds, c.isDigit := hds ▸ List.all_eq_true.1 List.all_takeWhile
    by_cases hne : ds.isEmpty || (ds.head? == some '0' && ds.length != 1)
    · rw [if_pos hne] at h
      cases h
    by_cases hl : maxDigits < negative.toNat + ds.length
    · rw [if_neg hne, if_pos hl] at h
      cases h
    by_cases hb : ds.length < body.length
    · rw [if_neg hne, if_neg hl, if_pos hb] at h
      cases h
    rw [if_neg hne, if_neg hl, if_neg hb] at h
    cases h
    have hne : ds ≠ [] := by
      rintro rfl
      exact hne rfl
    have hlength := length_intText_le negative hd hne
    omega
  unfold readPlainInteger at h
  exact key _ _ h

theorem written_of_readInteger {cs : List Char} {n : Int} (h : readInteger cs = .value n) :
    (intText n).length ≤ maxDigits := by
  unfold readInteger at h
  split at h
  · split at h
    · next hv =>
      obtain ⟨body, -, hp⟩ := Option.map_eq_some_iff.1 hv
      cases h
      exact written_of_readPlainInteger hp
    · cases h
  · exact written_of_readPlainInteger h

theorem written_of_integer {v : Json} {n : Int} {room : Nat} (hfit : v.FitsIn room)
    (h : integer v = .ok n) : (intText n).length ≤ maxDigits := by
  have hsmall : ∀ {m : Int}, m.natAbs < 10 ^ 20 → (intText m).length ≤ maxDigits := by
    intro m hm
    have hl := (length_natText_le_iff (show 0 < 20 by decide)).2 hm
    have hs := Bool.toNat_le (decide (m < 0))
    rw [length_intText]
    unfold maxDigits
    omega
  unfold integer at h
  split at h
  · cases h
    exact hfit.ints _ (by simp [JsonTree.ints])
  · next b =>
    cases h
    cases b <;> exact hsmall (by decide)
  · next x =>
    split at h
    · next hx =>
      cases h
      unfold intOfFloat at hx
      split at hx
      · split at hx
        · cases hx
          exact hsmall (by omega)
        · cases hx
      · cases hx
    · cases h
  · split at h
    · next hv =>
      cases h
      exact written_of_readInteger hv
    · cases h
    · cases h
  · cases h

theorem object_eq_ok_iff {α : Type} {decode : List (String × Json) → Decoded α} {v : Json}
    {x : α} : object decode v = .ok x ↔ ∃ fields, v = .object fields ∧ decode fields = .ok x := by
  cases v with
  | object fields => simp [object]
  | _ => exact iff_of_false nofun (by simp)

theorem settings_eq_ok_iff {door : Door} {v : Json} {s : Settings} :
    settings door v = .ok s ↔ ∃ fields, v = .object fields ∧
      SettingsField.symbol.nullable text fields = .ok s.symbol ∧
      SettingsField.timeframe.nullable text fields = .ok s.timeframe ∧
      SettingsField.startDate.nullable text fields = .ok s.startDate ∧
      SettingsField.endDate.nullable text fields = .ok s.endDate ∧
      SettingsField.positionSize.nullable (float door) fields = .ok s.positionSize ∧
      SettingsField.maxPositions.nullable integer fields = .ok s.maxPositions ∧
      SettingsField.maxHoldDays.nullable integer fields = .ok s.maxHoldDays ∧
      SettingsField.entryMode.nullable text fields = .ok s.entryMode ∧
      SettingsField.exitMode.nullable text fields = .ok s.exitMode := by
  obtain ⟨symbol, timeframe, startDate, endDate, size, positions, days, entry, exit⟩ := s
  rw [settings, object_eq_ok_iff]
  refine exists_congr fun fields => and_congr_right fun _ => ?_
  simp only [Decoded.seq_eq_ok_iff, Decoded.map_eq_ok_iff, ↓existsAndEq, and_true, and_assoc,
    Settings.mk.injEq]

theorem strategy_eq_ok_iff {door : Door} {v : Json} {s : Strategy} :
    strategy door v = .ok s ↔ ∃ fields, v = .object fields ∧
      StrategyField.entrySignals.withDefault [] (signalList (levels door)) fields =
        .ok s.entrySignals ∧
      StrategyField.exitSignals.withDefault [] (signalList (levels door)) fields =
        .ok s.exitSignals ∧
      StrategyField.settings.nullable (settings door) fields = .ok s.settings ∧
      StrategyField.clarificationRequest.nullable text fields = .ok s.clarificationRequest := by
  obtain ⟨entry, exit, set, clarification⟩ := s
  rw [strategy, object_eq_ok_iff]
  refine exists_congr fun fields => and_congr_right fun _ => ?_
  simp only [Decoded.seq_eq_ok_iff, Decoded.map_eq_ok_iff, ↓existsAndEq, and_true, and_assoc,
    Strategy.mk.injEq]

theorem strategyDocument_eq_ok_iff {door : Door} {v : Json} {d : StrategyDocument} :
    strategyDocument door v = .ok d ↔ ∃ fields, v = .object fields ∧
      StrategyField.version.withDefault currentVersion text fields = .ok d.version ∧
      StrategyField.strategy.nullable (strategy door) fields = .ok d.strategy := by
  obtain ⟨version, s⟩ := d
  rw [strategyDocument, object_eq_ok_iff]
  refine exists_congr fun fields => and_congr_right fun _ => ?_
  simp only [Decoded.seq_eq_ok_iff, Decoded.map_eq_ok_iff, ↓existsAndEq, and_true,
    StrategyDocument.mk.injEq]

end Decode

/-- Numbers as a document gives them. -/
structure Settings.Written (s : Settings) : Prop where
  maxPositions : ∀ n ∈ s.maxPositions, (intText n).length ≤ maxDigits
  maxHoldDays : ∀ n ∈ s.maxHoldDays, (intText n).length ≤ maxDigits

/-- What can be told of a strategy from the fact that a text of so many levels gives it. -/
structure Strategy.WrittenIn (room : Nat) (s : Strategy) : Prop where
  forest : ∀ list, 2 * forestHeight (s.signals list) ≤ room
  args : ∀ list, ∀ n ∈ s.signals list, n.Everywhere SignalNode.ArgsWritten
  settings : ∀ t ∈ s.settings, t.Written

namespace Decode

variable {v : Json} {room : Nat}

theorem written_of_settings {door : Door} {s : Settings} (hfit : v.FitsIn (room + 1))
    (h : settings door v = .ok s) : s.Written := by
  obtain ⟨fields, rfl, -, -, -, -, -, hpositions, hdays, -, -⟩ := settings_eq_ok_iff.1 h
  have hpart := JsonTree.fitsIn_object_iff.1 hfit
  have hint : ∀ {name : FieldName} {o : Option Int}, name.nullable integer fields = .ok o →
      ∀ n ∈ o, (intText n).length ≤ maxDigits := by
    intro name o ho n hn
    rcases FieldName.eq_or_exists_of_nullable ho with rfl | ⟨f, hf, m, hm, rfl⟩
    · cases hn
    · cases hn
      exact written_of_integer (hpart f hf) hm
  exact ⟨hint hpositions, hint hdays⟩

theorem written_of_strategy {s : Strategy} (hfit : v.FitsIn (room + 2))
    (h : strategy .document v = .ok s) : s.WrittenIn (room + 1) := by
  obtain ⟨fields, rfl, hentry, hexit, hsettings, -⟩ := strategy_eq_ok_iff.1 h
  have hpart := JsonTree.fitsIn_object_iff.1 hfit
  have hlist : ∀ {name : FieldName} {nodes : List SignalNode},
      name.withDefault [] (signalList (levels .document)) fields = .ok nodes →
      2 * forestHeight nodes ≤ room + 1 ∧
        ∀ n ∈ nodes, n.Everywhere SignalNode.ArgsWritten := by
    intro name nodes hn
    rcases FieldName.eq_or_exists_of_withDefault hn with rfl | ⟨f, hf, hs⟩
    · exact ⟨Nat.zero_le _, fun n hn => absurd hn List.not_mem_nil⟩
    · exact (sound_of_signal (hpart f hf)).2 nodes hs
  refine ⟨?_, ?_, ?_⟩
  · intro list
    cases list with
    | entry => exact (hlist hentry).1
    | exit => exact (hlist hexit).1
  · intro list
    cases list with
    | entry => exact (hlist hentry).2
    | exit => exact (hlist hexit).2
  · intro t ht
    rcases FieldName.eq_or_exists_of_nullable hsettings with he | ⟨f, hf, u, hu, he⟩
    · rw [he] at ht
      cases ht
    · rw [he] at ht
      cases ht
      exact written_of_settings (hpart f hf) hu

theorem written_of_strategyDocument {d : StrategyDocument} (hfit : v.FitsIn (room + 3))
    (h : strategyDocument .document v = .ok d) : ∀ s ∈ d.strategy, s.WrittenIn (room + 1) := by
  obtain ⟨fields, rfl, -, hstrategy⟩ := strategyDocument_eq_ok_iff.1 h
  have hpart := JsonTree.fitsIn_object_iff.1 hfit
  intro s hs
  rcases FieldName.eq_or_exists_of_nullable hstrategy with he | ⟨f, hf, u, hu, he⟩
  · rw [he] at hs
    cases hs
  · rw [he] at hs
    cases hs
    exact written_of_strategy (hpart f hf) hu

end Decode

end TradingSignals
