import TradingSignals.Proofs.Strategy.Decoding
import TradingSignals.Strategy.Encoding

namespace TradingSignals

theorem signalItemsToJson_eq {spelling : Spelling} {nodes : List SignalNode} :
    signalItemsToJson spelling nodes = nodes.map (SignalNode.toJson spelling) := by
  induction nodes with
  | nil => rfl
  | cons n nodes ih => rw [signalItemsToJson, ih, List.map_cons]

section

variable {room : Nat}

theorem fitsIn_scalar {x : Scalar} (h : x.Written) : x.toJson.FitsIn room := by
  cases x with
  | int v => exact JsonTree.fitsIn_int h
  | float x => exact JsonTree.fitsIn_float
  | text s => exact JsonTree.fitsIn_text
  | flag b => exact JsonTree.fitsIn_bool

theorem fitsIn_ofOption {α : Type} {encode : α → Json} {o : Option α}
    (h : ∀ a ∈ o, (encode a).FitsIn room) : (Json.ofOption encode o).FitsIn room := by
  cases o with
  | none => exact JsonTree.fitsIn_null
  | some a => exact h a rfl

theorem fitsIn_ofText? {o : Option String} : (Json.ofText? o).FitsIn room :=
  fitsIn_ofOption fun _ _ => JsonTree.fitsIn_text

theorem fitsIn_ofFloat? {o : Option Binary64} : (Json.ofFloat? o).FitsIn room :=
  fitsIn_ofOption fun _ _ => JsonTree.fitsIn_float

theorem fitsIn_ofInt? {o : Option Int} (h : ∀ n ∈ o, (intText n).length ≤ maxDigits) :
    (Json.ofInt? o).FitsIn room :=
  fitsIn_ofOption fun n hn => JsonTree.fitsIn_int (h n hn)

theorem fitsIn_args {args : List (String × Scalar)} (h : ∀ a ∈ args, a.2.Written) :
    (argsToJson args).FitsIn (room + 1) := by
  rw [argsToJson, JsonTree.fitsIn_object_iff, List.forall_mem_map]
  exact fun a ha => fitsIn_scalar (h a ha)

/-- A signal is written with two levels for each of its own. -/
theorem fitsIn_signal {spelling : Spelling} {n : SignalNode}
    (hw : n.Everywhere SignalNode.ArgsWritten) (hh : 2 * n.height ≤ room) :
    (n.toJson spelling).FitsIn room := by
  induction n using SignalNode.induct generalizing room with
  | node id args children rule ih =>
    obtain ⟨hown, hbelow⟩ := SignalNode.everywhere_mk.1 hw
    rw [SignalNode.height] at hh
    obtain ⟨room, rfl⟩ : ∃ k, room = k + 2 := ⟨room - 2, by omega⟩
    have hchildren : (JsonTree.array (signalItemsToJson spelling children)).FitsIn (room + 1) := by
      rw [JsonTree.fitsIn_array_iff, signalItemsToJson_eq, List.forall_mem_map]
      intro n hn
      have hle := height_le_forestHeight hn
      exact ih n hn (hbelow n hn) (by omega)
    rw [SignalNode.toJson, JsonTree.fitsIn_object_iff]
    simp [RuleFields.toFields, fitsIn_args hown.values, hchildren, fitsIn_ofText?]

end

/-- Whether a scalar is a number or a text that JSON has a spelling for. -/
def Scalar.isFinite : Scalar → Bool
  | .float x => x.isFinite
  | _ => true

/-- No argument of a signal, or of one below it, is a double that is not finite. -/
def SignalNode.ArgsFinite (n : SignalNode) : Prop :=
  n.Everywhere fun m => ∀ a ∈ m.args, a.2.isFinite

namespace Decode

/-- A double that is not finite is written as null, which no argument is. -/
theorem scalar_toJson_eq_ok_iff {x y : Scalar} (hx : x.Written) :
    scalar x.toJson.finite = .ok y ↔ x.isFinite ∧ y = x := by
  cases x with
  | int v => simp [Scalar.toJson, JsonTree.finite, scalar, Scalar.isFinite, eq_comm]
  | text s => simp [Scalar.toJson, JsonTree.finite, scalar, Scalar.isFinite, eq_comm]
  | flag b => cases hx
  | float x =>
    by_cases hf : x.isFinite
    · simp [Scalar.toJson, JsonTree.finite, scalar, Scalar.isFinite, hf, eq_comm]
    · simp [Scalar.toJson, JsonTree.finite, scalar, Scalar.isFinite, hf]

theorem args_toJson_eq_ok_iff {entries got : List (String × Scalar)}
    (hk : (entries.map Prod.fst).Nodup) (hw : ∀ a ∈ entries, a.2.Written) :
    args (argsToJson entries).finite = .ok got ↔
      (∀ a ∈ entries, a.2.isFinite) ∧ got = entries := by
  have hs : ∀ {written}, scalars (entries.map fun a => (a.1, a.2.toJson.finite)) = .ok written ↔
      (∀ a ∈ entries, a.2.isFinite) ∧ written = entries := by
    intro written
    rw [scalars_eq_ok_iff, List.forall₂_map_left_iff]
    apply forall₂_iff_of_eq
    intro a ha b
    rw [scalar_toJson_eq_ok_iff (hw a ha), Prod.ext_iff]
    tauto
  rw [argsToJson, JsonTree.finite_object, List.map_map, args_object_eq_ok_iff]
  constructor
  · rintro ⟨written, h, rfl⟩
    obtain ⟨hf, rfl⟩ := hs.1 h
    exact ⟨hf, foldl_putField_of_nodup hk⟩
  · rintro ⟨hf, rfl⟩
    exact ⟨_, hs.2 ⟨hf, rfl⟩, foldl_putField_of_nodup hk⟩

section

variable {name : FieldName} {fields : List (String × Json)} {spelling : String}

/-- An optional field comes back as what its value comes back as, if that is not written as null. -/
theorem nullable_ofOption {α β : Type} {encode : α → Json} {decode : Json → Decoded β} {g : α → β}
    {o : Option α} (hd : ∀ a, decode (encode a).finite = .ok (g a))
    (hn : ∀ a, (encode a).finite ≠ .null)
    (h : name.find? fields = some (spelling, (Json.ofOption encode o).finite)) :
    name.nullable decode fields = .ok (o.map g) := by
  cases o with
  | none => exact FieldName.nullable_of_null h
  | some a => exact (FieldName.nullable_of_find? h (hn a)).2 ⟨g a, hd a, rfl⟩

theorem nullable_text {o : Option String}
    (h : name.find? fields = some (spelling, (Json.ofText? o).finite)) :
    name.nullable text fields = .ok o := by
  have hn : ∀ a, (JsonTree.text a : Json).finite ≠ .null := fun _ => nofun
  rw [nullable_ofOption (g := id) (fun _ => rfl) hn h, Option.map_id_apply]

theorem nullable_integer {o : Option Int}
    (h : name.find? fields = some (spelling, (Json.ofInt? o).finite)) :
    name.nullable integer fields = .ok o := by
  have hn : ∀ a, (JsonTree.int a : Json).finite ≠ .null := fun _ => nofun
  rw [nullable_ofOption (g := id) (fun _ => rfl) hn h, Option.map_id_apply]

theorem nullable_bool {o : Option Bool}
    (h : name.find? fields = some (spelling, (Json.ofBool? o).finite)) :
    name.nullable bool fields = .ok o := by
  have hn : ∀ a, (JsonTree.bool a : Json).finite ≠ .null := fun _ => nofun
  rw [nullable_ofOption (g := id) (fun _ => rfl) hn h, Option.map_id_apply]

/-- A double that is not finite comes back as none. -/
theorem nullable_float {o : Option Binary64} {door : Door}
    (h : name.find? fields = some (spelling, (Json.ofFloat? o).finite)) :
    name.nullable (float door) fields = .ok (o.filter (·.isFinite)) := by
  cases o with
  | none => rw [FieldName.nullable, h]; rfl
  | some x =>
    rw [Json.ofFloat?, Json.ofOption, JsonTree.finite] at h
    by_cases hx : x.isFinite
    · rw [if_pos hx] at h
      rw [FieldName.nullable, h, Option.filter_some_pos hx]
      rfl
    · rw [if_neg hx] at h
      rw [FieldName.nullable, h, Option.filter_some_neg (Bool.eq_false_iff.2 hx)]

end

section

variable {id : String} {entries : List (String × Scalar)} {children : List SignalNode}
  {r : RuleFields}

theorem finite_toJson :
    ((SignalNode.mk id entries children r).toJson .wire).finite =
      .object ((SignalField.catalogId.wire, .text id) ::
        (SignalField.args.wire, (argsToJson entries).finite) ::
        (SignalField.children.wire, .array (children.map fun n => (n.toJson .wire).finite)) ::
        (r.toFields .wire).map fun f => (f.1, f.2.finite)) := by
  rw [SignalNode.toJson, JsonTree.finite_object, signalItemsToJson_eq]
  simp only [List.map_cons, JsonTree.finite_array, List.map_map]
  rfl

theorem rule_toFields {a b c : Json} :
    rule ((SignalField.catalogId.wire, a) :: (SignalField.args.wire, b) ::
      (SignalField.children.wire, c) :: (r.toFields .wire).map fun f => (f.1, f.2.finite)) =
      .ok r := by
  rw [rule, nullable_text (o := r.mode1) rfl, nullable_text (o := r.operation1) rfl,
    nullable_text (o := r.crossOp) rfl, nullable_text (o := r.mode2) rfl,
    nullable_text (o := r.operation2) rfl]
  rfl

end

theorem signal_toJson_eq_ok_iff {n m : SignalNode} (hn : n.Everywhere SignalNode.ArgsWritten) :
    signal none (n.toJson .wire).finite = .ok m ↔ n.ArgsFinite ∧ m = n := by
  induction n using SignalNode.induct generalizing m with
  | node id entries children r ih =>
    obtain ⟨hown, hbelow⟩ := SignalNode.everywhere_mk.1 hn
    have hchildren : ∀ {nodes}, signalList none
        (JsonTree.array (children.map fun n => (n.toJson .wire).finite)) = .ok nodes ↔
          (∀ n ∈ children, n.ArgsFinite) ∧ nodes = children := by
      intro nodes
      rw [signalList_array, signalItems_eq_ok_iff, List.forall₂_map_left_iff]
      exact forall₂_iff_of_eq fun n hn m => ih n hn (hbelow n hn)
    obtain ⟨id', entries', children', r'⟩ := m
    have hid : ∀ {x}, text (.text id) = .ok x ↔ x = id := by
      intro x
      rw [text, Decoded.ok.injEq, eq_comm]
    rw [finite_toJson, signal_object_eq_ok_iff (by simp),
      FieldName.withDefault_of_find? (v := .text id) rfl, hid,
      FieldName.withDefault_of_find? (v := (argsToJson entries).finite) rfl,
      args_toJson_eq_ok_iff hown.keys hown.values,
      FieldName.withDefault_of_find? (v := .array _) rfl, Option.map_none, hchildren]
    rw [rule_toFields, Decoded.ok.injEq]
    simp only [SignalNode.ArgsFinite, SignalNode.everywhere_mk, SignalNode.mk.injEq]
    tauto

end Decode

/-- Settings as they are read back: a position size that is not finite is lost. -/
def Settings.reread (s : Settings) : Settings :=
  { s with positionSize := s.positionSize.filter (·.isFinite) }

def Strategy.reread (s : Strategy) : Strategy :=
  { s with settings := s.settings.map Settings.reread }

def StrategyDocument.reread (d : StrategyDocument) : StrategyDocument :=
  { d with strategy := d.strategy.map Strategy.reread }

namespace Decode

theorem settings_toJson {s : Settings} :
    settings .document s.toJson.finite = .ok s.reread := by
  rw [Settings.toJson, JsonTree.finite_object, settings_eq_ok_iff]
  exact ⟨_, rfl, nullable_text rfl, nullable_text rfl, nullable_text rfl, nullable_text rfl,
    nullable_float rfl, nullable_integer rfl, nullable_integer rfl, nullable_text rfl,
    nullable_text rfl⟩

theorem strategy_toJson_eq_ok_iff {s t : Strategy}
    (hs : ∀ list, ∀ n ∈ s.signals list, n.Everywhere SignalNode.ArgsWritten) :
    strategy .document s.toJson.finite = .ok t ↔
      (∀ list, ∀ n ∈ s.signals list, n.ArgsFinite) ∧ t = s.reread := by
  obtain ⟨entry, exit, o, question⟩ := s
  obtain ⟨entry', exit', o', question'⟩ := t
  have hsettings : ∀ {name : FieldName} {spelling : String} {fields : List (String × Json)},
      name.find? fields = some (spelling, (Json.ofOption Settings.toJson o).finite) →
      name.nullable (settings .document) fields = .ok (o.map Settings.reread) := by
    intro name spelling fields h
    refine nullable_ofOption (fun _ => settings_toJson) ?_ h
    intro u
    rw [Settings.toJson, JsonTree.finite_object]
    exact nofun
  have hlist : ∀ {nodes got : List SignalNode},
      (∀ n ∈ nodes, n.Everywhere SignalNode.ArgsWritten) →
      (signalList (levels .document)
        (JsonTree.array (nodes.map fun n => (n.toJson .wire).finite)) = .ok got ↔
          (∀ n ∈ nodes, n.ArgsFinite) ∧ got = nodes) := by
    intro nodes got hw
    rw [signalList_array, signalItems_eq_ok_iff, List.forall₂_map_left_iff]
    exact forall₂_iff_of_eq fun n hn m => signal_toJson_eq_ok_iff (hw n hn)
  have hfields : (Strategy.mk entry exit o question).toJson.finite = .object
      [(StrategyField.entrySignals.wire, .array (entry.map fun n => (n.toJson .wire).finite)),
       (StrategyField.exitSignals.wire, .array (exit.map fun n => (n.toJson .wire).finite)),
       (StrategyField.settings.wire, (Json.ofOption Settings.toJson o).finite),
       (StrategyField.clarificationRequest.wire, (Json.ofText? question).finite)] := by
    simp only [Strategy.toJson, JsonTree.finite_object, signalItemsToJson_eq, List.map_cons,
      List.map_nil, JsonTree.finite_array, List.map_map]
    rfl
  have hentry : ∀ n ∈ entry, n.Everywhere SignalNode.ArgsWritten := hs .entry
  have hexit : ∀ n ∈ exit, n.Everywhere SignalNode.ArgsWritten := hs .exit
  rw [hfields, strategy_eq_ok_iff]
  simp only [JsonTree.object.injEq, exists_eq_left']
  rw [FieldName.withDefault_of_find? (v := .array _) rfl, hlist hentry,
    FieldName.withDefault_of_find? (v := .array _) rfl, hlist hexit, hsettings rfl,
    nullable_text (o := question) rfl, Decoded.ok.injEq, Decoded.ok.injEq, SignalList.forall_iff]
  simp only [Strategy.reread, Strategy.mk.injEq, Strategy.signals]
  rw [eq_comm (a := o'), eq_comm (a := question')]
  tauto

theorem strategyDocument_toJson_eq_ok_iff {d e : StrategyDocument}
    (hd : ∀ list, ∀ n ∈ d.signals list, n.Everywhere SignalNode.ArgsWritten) :
    strategyDocument .document d.toJson.finite = .ok e ↔
      (∀ list, ∀ n ∈ d.signals list, n.ArgsFinite) ∧ e = d.reread := by
  obtain ⟨version, o⟩ := d
  obtain ⟨version', o'⟩ := e
  have hversion : ∀ {x}, text (.text version) = .ok x ↔ x = version := by
    intro x
    rw [text, Decoded.ok.injEq, eq_comm]
  have hfields : (StrategyDocument.mk version o).toJson.finite = .object
      [(StrategyField.version.wire, .text version),
       (StrategyField.strategy.wire, (Json.ofOption Strategy.toJson o).finite)] := by
    rw [StrategyDocument.toJson, JsonTree.finite_object]
    rfl
  rw [hfields, strategyDocument_eq_ok_iff]
  simp only [JsonTree.object.injEq, exists_eq_left']
  rw [FieldName.withDefault_of_find? (v := .text version) rfl, hversion]
  cases o with
  | none =>
    rw [FieldName.nullable_of_null rfl]
    simp [StrategyDocument.reread, StrategyDocument.signals, eq_comm]
  | some s =>
    have hn : s.toJson.finite ≠ .null := by
      rw [Strategy.toJson, JsonTree.finite_object]
      exact nofun
    rw [FieldName.nullable_of_find? (v := s.toJson.finite) rfl hn]
    simp only [strategy_toJson_eq_ok_iff hd, StrategyDocument.reread, StrategyDocument.mk.injEq,
      Option.map_some]
    constructor
    · rintro ⟨hv, t, ⟨hf, rfl⟩, ht⟩
      exact ⟨hf, hv, ht.symm⟩
    · rintro ⟨hf, hv, ht⟩
      exact ⟨hv, s.reread, ⟨hf, rfl⟩, ht.symm⟩

end Decode

theorem fitsIn_settings {s : Settings} {room : Nat} (h : s.Written) :
    s.toJson.FitsIn (room + 1) := by
  rw [Settings.toJson, JsonTree.fitsIn_object_iff]
  simp [fitsIn_ofText?, fitsIn_ofFloat?, fitsIn_ofInt? h.maxPositions, fitsIn_ofInt? h.maxHoldDays]

/-- A document is written with no more levels than the longest text it can come from. -/
theorem fitsIn_strategy {s : Strategy} {k : Nat} (h : s.WrittenIn (2 * k + 1)) :
    s.toJson.FitsIn (2 * k + 2) := by
  have hlist : ∀ list,
      (JsonTree.array (signalItemsToJson .wire (s.signals list))).FitsIn (2 * k + 1) := by
    intro list
    rw [JsonTree.fitsIn_array_iff, signalItemsToJson_eq, List.forall_mem_map]
    intro n hn
    have hle := height_le_forestHeight hn
    have hroom := h.forest list
    exact fitsIn_signal (h.args list n hn) (by omega)
  have hsettings : (Json.ofOption Settings.toJson s.settings).FitsIn (2 * k + 1) :=
    fitsIn_ofOption fun t ht => fitsIn_settings (h.settings t ht)
  rw [Strategy.toJson, JsonTree.fitsIn_object_iff]
  simpa [fitsIn_ofText?, hsettings] using ⟨hlist .entry, hlist .exit⟩

theorem fitsIn_document {d : StrategyDocument} {k : Nat}
    (h : ∀ s ∈ d.strategy, s.WrittenIn (2 * k + 1)) : d.toJson.FitsIn (2 * k + 3) := by
  have hstrategy : (Json.ofOption Strategy.toJson d.strategy).FitsIn (2 * k + 2) :=
    fitsIn_ofOption fun s hs => fitsIn_strategy (h s hs)
  rw [StrategyDocument.toJson, JsonTree.fitsIn_object_iff]
  simpa using hstrategy

end TradingSignals
