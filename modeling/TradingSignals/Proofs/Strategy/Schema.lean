import Mathlib.Data.List.Nodup
import TradingSignals.Proofs.Json.Settled
import TradingSignals.Proofs.Schema.Faults
import TradingSignals.Proofs.Strategy.Decoding
import TradingSignals.Strategy.Encoding

namespace TradingSignals

deriving instance DecidableEq for FieldName

/-- What a value in a document stands for. A leaf has no part that is looked at as a signal or
setting. -/
inductive Role where
  | document
  | strategy
  | settings
  | signals
  | signal
  | args
  | argument
  | leaf
  deriving DecidableEq

namespace Role

/-- The fields of an object, and what their values stand for. -/
def fields : Role → List (FieldName × Role)
  | .document => [(StrategyField.version, .leaf), (StrategyField.strategy, .strategy)]
  | .strategy =>
    [(StrategyField.entrySignals, .signals), (StrategyField.exitSignals, .signals),
     (StrategyField.settings, .settings), (StrategyField.clarificationRequest, .leaf)]
  | .settings =>
    [(SettingsField.symbol, .leaf), (SettingsField.timeframe, .leaf),
     (SettingsField.startDate, .leaf), (SettingsField.endDate, .leaf),
     (SettingsField.positionSize, .leaf), (SettingsField.maxPositions, .leaf),
     (SettingsField.maxHoldDays, .leaf), (SettingsField.entryMode, .leaf),
     (SettingsField.exitMode, .leaf)]
  | .signal =>
    [(SignalField.catalogId, .leaf), (SignalField.args, .args), (SignalField.children, .signals),
     (SignalField.mode1, .leaf), (SignalField.operation1, .leaf), (SignalField.crossOp, .leaf),
     (SignalField.mode2, .leaf), (SignalField.operation2, .leaf)]
  | _ => []

/-- The field that a key of an object spells. -/
def field? (role : Role) (k : String) : Option (FieldName × Role) :=
  role.fields.find? fun f => k = f.1.wire ∨ k = f.1.plain

/-- What the value under a key of an object stands for. The keys of arguments are free. -/
def part : Role → String → Role
  | .args, _ => .argument
  | role, k => ((role.field? k).map Prod.snd).getD .leaf

/-- What the items of an array stand for. -/
def item : Role → Role
  | .signals => .signal
  | _ => .leaf

/-- What a value of a document is read as. -/
def Reading : Role → Type
  | .document => StrategyDocument
  | .strategy => Strategy
  | .settings => Settings
  | .signals => List SignalNode
  | .signal => SignalNode
  | .args => List (String × Scalar)
  | .argument => Scalar
  | .leaf => Json

def decode : (role : Role) → Json → Decoded role.Reading
  | .document => Decode.strategyDocument .document
  | .strategy => Decode.strategy .document
  | .settings => Decode.settings .document
  | .signals => Decode.signalList (Decode.levels .document)
  | .signal => Decode.signal (Decode.levels .document)
  | .args => Decode.args
  | .argument => Decode.scalar
  | .leaf => .ok

/-- No two fields of an object share a name. -/
theorem field?_of_mem {role : Role} {f : FieldName × Role} (hf : f ∈ role.fields)
    (spelling : Spelling) : role.field? (f.1.spelled spelling) = some f := by
  have hall : ∀ f ∈ role.fields,
      role.field? f.1.wire = some f ∧ role.field? f.1.plain = some f := by
    cases role <;> decide +kernel
  cases spelling with
  | wire => exact (hall f hf).1
  | plain => exact (hall f hf).2

theorem part_eq {role : Role} (hr : role ≠ .args) (k : String) :
    role.part k = ((role.field? k).map Prod.snd).getD .leaf := by
  cases role with
  | args => exact absurd rfl hr
  | _ => rfl

theorem part_of_mem {role inner : Role} {name : FieldName} (hf : (name, inner) ∈ role.fields)
    (spelling : Spelling) : role.part (name.spelled spelling) = inner := by
  have hr : role ≠ .args := by
    rintro rfl
    cases hf
  rw [part_eq hr, field?_of_mem hf]
  rfl

theorem exists_field_of_part {role : Role} {k : String} (hr : role ≠ .args)
    (hk : role.part k ≠ .leaf) :
    ∃ name spelling, (name, role.part k) ∈ role.fields ∧ k = name.spelled spelling := by
  rw [part_eq hr] at hk ⊢
  cases hf : role.field? k with
  | none => exact absurd (by rw [hf]; rfl) hk
  | some f =>
    have hspelled := List.find?_some hf
    simp only [decide_eq_true_eq] at hspelled
    rcases hspelled with hwire | hplain
    · exact ⟨f.1, .wire, List.mem_of_find?_eq_some hf, hwire⟩
    · exact ⟨f.1, .plain, List.mem_of_find?_eq_some hf, hplain⟩

end Role

namespace FieldName

variable {α : Type} {name : FieldName} {decode : Json → Decoded α} {fields : List (String × Json)}

theorem exists_spelling_of_find? {k : String} {v : Json} (h : name.find? fields = some (k, v)) :
    ∃ spelling, k = name.spelled spelling := by
  unfold find? at h
  split at h
  · cases h
    exact ⟨.wire, rfl⟩
  · obtain ⟨w, -, h⟩ := Option.map_eq_some_iff.1 h
    cases h
    exact ⟨.plain, rfl⟩

/-- What is not the default value was given under one of the names. -/
theorem exists_of_withDefault {a x : α} (h : name.withDefault a decode fields = .ok x)
    (hx : x ≠ a) : ∃ spelling v, (name.spelled spelling, v) ∈ fields ∧ decode v = .ok x := by
  cases hf : name.find? fields with
  | none =>
    rw [withDefault_of_absent hf] at h
    cases h
    exact absurd rfl hx
  | some f =>
    obtain ⟨k, v⟩ := f
    obtain ⟨spelling, rfl⟩ := exists_spelling_of_find? hf
    exact ⟨spelling, v, mem_of_find? hf, (withDefault_of_find? hf).1 h⟩

theorem exists_of_nullable {x : α} (h : name.nullable decode fields = .ok (some x)) :
    ∃ spelling v, (name.spelled spelling, v) ∈ fields ∧ decode v = .ok x := by
  cases hf : name.find? fields with
  | none =>
    rw [nullable_of_absent hf] at h
    cases h
  | some f =>
    obtain ⟨k, v⟩ := f
    obtain ⟨spelling, rfl⟩ := exists_spelling_of_find? hf
    by_cases hv : v = .null
    · rw [hv] at hf
      rw [nullable_of_null hf] at h
      cases h
    · obtain ⟨y, hy, he⟩ := (nullable_of_find? hf hv).1 h
      cases he
      exact ⟨spelling, v, mem_of_find? hf, hy⟩

end FieldName

/-- A part of a value and the steps to it, with what both stand for. -/
inductive PartAt : Role → Json → List LocStep → Role → Json → Prop
  | here {role : Role} {v : Json} : PartAt role v [] role v
  | key {role target : Role} {fields : List (String × Json)} {k : String} {v w : Json}
    {loc : List LocStep} (hk : (k, v) ∈ fields) (h : PartAt (role.part k) v loc target w) :
    PartAt role (.object fields) (.key k :: loc) target w
  | index {role target : Role} {items : List Json} {i : Nat} {v w : Json} {loc : List LocStep}
    (hi : items[i]? = some v) (h : PartAt role.item v loc target w) :
    PartAt role (.array items) (.index i :: loc) target w

theorem PartAt.field {role inner target : Role} {name : FieldName} {spelling : Spelling}
    {fields : List (String × Json)} {v w : Json} {loc : List LocStep}
    (hf : (name, inner) ∈ role.fields) (hk : (name.spelled spelling, v) ∈ fields)
    (h : PartAt inner v loc target w) :
    PartAt role (.object fields) (.key (name.spelled spelling) :: loc) target w := by
  refine .key hk ?_
  rw [Role.part_of_mem hf]
  exact h

/-- The parts of a part are parts. -/
theorem PartAt.trans {role target last : Role} {v w u : Json} {loc more : List LocStep}
    (h : PartAt role v loc target w) (h' : PartAt target w more last u) :
    PartAt role v (loc ++ more) last u := by
  induction h with
  | here => exact h'
  | key hk _ ih => exact .key hk (ih h')
  | index hi _ ih => exact .index hi (ih h')

/-- No field of an object is there under both of its names. -/
def Role.OneName (role : Role) (fields : List (String × Json)) : Prop :=
  ∀ f ∈ role.fields, f.1.wire ∈ fields.map Prod.fst → f.1.plain ∉ fields.map Prod.fst

instance {role : Role} {fields : List (String × Json)} : Decidable (role.OneName fields) :=
  inferInstanceAs (Decidable (∀ f ∈ role.fields,
    f.1.wire ∈ fields.map Prod.fst → f.1.plain ∉ fields.map Prod.fst))

/-- No key stands twice in an object either. -/
structure FieldsOnce (role : Role) (fields : List (String × Json)) : Prop where
  keys : (fields.map Prod.fst).Nodup
  names : role.OneName fields

theorem lastField?_of_mem {α : Type} {fields : List (String × α)} {k : String} {v : α}
    (hn : (fields.map Prod.fst).Nodup) (hv : (k, v) ∈ fields) :
    lastField? k fields = some v := by
  cases hl : lastField? k fields with
  | none => exact absurd (List.mem_map_of_mem hv) (lastField?_eq_none_iff.1 hl)
  | some w =>
    have he : (k, w) = (k, v) := List.inj_on_of_nodup_map hn (mem_of_lastField? hl) hv rfl
    cases he
    rfl

theorem exists_lastField? {α : Type} {fields : List (String × α)} {k : String}
    (h : k ∈ fields.map Prod.fst) : ∃ v, lastField? k fields = some v :=
  Option.ne_none_iff_exists'.1 (mt lastField?_eq_none_iff.1 (not_not_intro h))

/-- Under one name at most, a field is found by the name that it has. -/
theorem Role.OneName.find?_eq_some {role : Role} {f : FieldName × Role} {spelling : Spelling}
    {fields : List (String × Json)} {v : Json} (h : role.OneName fields) (hf : f ∈ role.fields)
    (hv : lastField? (f.1.spelled spelling) fields = some v) :
    f.1.find? fields = some (f.1.spelled spelling, v) := by
  unfold FieldName.find?
  cases spelling with
  | wire =>
    rw [show lastField? f.1.wire fields = some v from hv]
    rfl
  | plain =>
    have hwire : lastField? f.1.wire fields = none := by
      rw [lastField?_eq_none_iff]
      exact fun hw => h f hf hw (List.mem_map_of_mem (mem_of_lastField? hv))
    rw [hwire, show lastField? f.1.plain fields = some v from hv]
    rfl

/-- Every object of a value has its fields once. -/
def Role.Once (role : Role) (v : Json) : Prop :=
  ∀ loc target fields, PartAt role v loc target (.object fields) → FieldsOnce target fields

theorem Role.Once.key {role : Role} {fields : List (String × Json)} {k : String} {v : Json}
    (h : role.Once (.object fields)) (hk : (k, v) ∈ fields) : (role.part k).Once v :=
  fun _ _ _ hp => h _ _ _ (.key hk hp)

theorem Role.Once.index {role : Role} {items : List Json} {i : Nat} {v : Json}
    (h : role.Once (.array items)) (hi : items[i]? = some v) : role.item.Once v :=
  fun _ _ _ hp => h _ _ _ (.index hi hp)

theorem Role.once_object {role : Role} {fields : List (String × Json)} :
    role.Once (.object fields) ↔
      FieldsOnce role fields ∧ ∀ f ∈ fields, (role.part f.1).Once f.2 := by
  constructor
  · intro h
    exact ⟨h [] _ _ .here, fun f hf => h.key hf⟩
  · rintro ⟨hown, hparts⟩ loc target fields' hp
    cases hp with
    | here => exact hown
    | key hk hp => exact hparts _ hk _ _ _ hp

theorem Role.once_array {role : Role} {items : List Json} :
    role.Once (.array items) ↔ ∀ v ∈ items, role.item.Once v := by
  constructor
  · intro h v hv
    obtain ⟨i, hi⟩ := List.mem_iff_getElem?.1 hv
    exact h.index hi
  · rintro hparts loc target fields hp
    cases hp with
    | index hi hp => exact hparts _ (List.mem_of_getElem? hi) _ _ _ hp

theorem Role.once_bool {role : Role} {b : Bool} : role.Once (.bool b) := by
  intro loc target fields hp
  cases hp

end TradingSignals
