import TradingSignals.Schema.Decoded
import Mathlib.Data.List.Forall2

namespace TradingSignals

namespace Decoded

variable {α β : Type}

theorem map_eq_ok_iff {f : α → β} {a : Decoded α} {b : β} :
    f <$> a = .ok b ↔ ∃ x, a = .ok x ∧ f x = b := by
  cases a with
  | faulty e =>
    constructor
    · intro h
      cases h
    · intro h
      obtain ⟨x, hx, -⟩ := h
      cases hx
  | ok x =>
    constructor
    · intro h
      exact ⟨x, rfl, Decoded.ok.inj h⟩
    · intro h
      obtain ⟨y, hy, h⟩ := h
      cases hy
      exact congrArg Decoded.ok h

/-- Nothing is decoded unless both sides are. -/
theorem seq_eq_ok_iff {f : Decoded (α → β)} {a : Decoded α} {b : β} :
    f <*> a = .ok b ↔ ∃ g x, f = .ok g ∧ a = .ok x ∧ g x = b := by
  cases f with
  | faulty e =>
    constructor
    · intro h
      cases a with
      | ok x => cases h
      | faulty e' => cases h
    · intro h
      obtain ⟨g, x, hg, -⟩ := h
      cases hg
  | ok g =>
    constructor
    · intro h
      obtain ⟨x, hx, h⟩ := map_eq_ok_iff.1 (show g <$> a = .ok b by cases a <;> exact h)
      exact ⟨g, x, rfl, hx, h⟩
    · intro h
      obtain ⟨g', x, hg, rfl, h⟩ := h
      cases hg
      exact congrArg Decoded.ok h

theorem inside_eq_ok_iff {step : LocStep} {a : Decoded α} {x : α} :
    a.inside step = .ok x ↔ a = .ok x := by
  cases a with
  | ok y => exact Iff.rfl
  | faulty e => exact iff_of_false nofun nofun

/-- The value of a part that was decoded. -/
def value? : Decoded α → Option α
  | .ok a => some a
  | .faulty _ => none

theorem value?_eq_some_iff {d : Decoded α} {a : α} : d.value? = some a ↔ d = .ok a := by
  cases d with
  | ok b => simp [value?]
  | faulty faults => simp [value?]

@[simp] theorem value?_map {f : α → β} {a : Decoded α} :
    (a.map f).value? = a.value?.map f := by
  cases a <;> rfl

@[simp] theorem value?_fmap {f : α → β} {a : Decoded α} : (f <$> a).value? = a.value?.map f :=
  value?_map

@[simp] theorem value?_seq {f : Decoded (α → β)} {a : Decoded α} :
    (f <*> a).value? = f.value?.bind fun g => a.value?.map g := by
  cases f <;> cases a <;> rfl

@[simp] theorem value?_inside {step : LocStep} {a : Decoded α} :
    (a.inside step).value? = a.value? := by
  cases a <;> rfl

theorem toExcept_eq_ok_iff {a : Decoded α} {x : α} : a.toExcept = .ok x ↔ a = .ok x := by
  cases a with
  | ok y =>
    constructor
    · intro h
      exact congrArg Decoded.ok (Except.ok.inj h)
    · intro h
      exact congrArg Except.ok (Decoded.ok.inj h)
  | faulty e => exact iff_of_false nofun nofun

end Decoded

/-- A list is decoded item by item. -/
theorem Decode.indexed_eq_ok_iff {α : Type} {decode : Json → Decoded α} {items : List Json}
    {found : List α} {i : Nat} :
    indexed decode i items = .ok found ↔
      List.Forall₂ (fun v a => decode v = .ok a) items found := by
  induction items generalizing i found with
  | nil => rw [indexed, List.forall₂_nil_left_iff, Decoded.ok.injEq, eq_comm]
  | cons v items ih =>
    rw [indexed, List.forall₂_cons_left_iff]
    simp only [Decoded.seq_eq_ok_iff, Decoded.map_eq_ok_iff, Decoded.inside_eq_ok_iff, ih]
    constructor
    · rintro ⟨_, found, ⟨a, ha, rfl⟩, hrest, rfl⟩
      exact ⟨a, found, ha, hrest, rfl⟩
    · rintro ⟨a, found, ha, hrest, rfl⟩
      exact ⟨_, found, ⟨a, ha, rfl⟩, hrest, rfl⟩

/-- Lists are decoded alike when their items are. -/
theorem Decode.indexed_congr {α : Type} {decode : Json → Decoded α} {items items' : List Json}
    (h : List.Forall₂ (fun v w => (decode v).value? = (decode w).value?) items items') {i : Nat} :
    (indexed decode i items).value? = (indexed decode i items').value? := by
  induction h generalizing i with
  | nil => rfl
  | cons hv _ ih =>
    simp only [indexed, Decoded.value?_seq, Decoded.value?_fmap, Decoded.value?_inside]
    rw [hv, ih]

theorem mem_of_lastField? {α : Type} {k : String} {fields : List (String × α)} {v : α}
    (h : lastField? k fields = some v) : (k, v) ∈ fields := by
  induction fields with
  | nil => cases h
  | cons f fields ih =>
    rw [lastField?] at h
    cases hl : lastField? k fields with
    | some w =>
      rw [hl] at h
      cases h
      exact List.mem_cons_of_mem f (ih hl)
    | none =>
      rw [hl] at h
      by_cases hk : f.1 == k
      · rw [if_pos hk] at h
        cases h
        rw [← eq_of_beq hk]
        exact List.mem_cons_self
      · rw [if_neg hk] at h
        cases h

namespace FieldName

variable {α : Type} {name : FieldName} {spelling : String} {decode : Json → Decoded α} {v : Json}
  {fields : List (String × Json)}

theorem mem_of_find? (h : name.find? fields = some (spelling, v)) : (spelling, v) ∈ fields := by
  unfold find? at h
  split at h
  · next hw =>
    cases h
    exact mem_of_lastField? hw
  · obtain ⟨w, hw, h⟩ := Option.map_eq_some_iff.1 h
    cases h
    exact mem_of_lastField? hw

theorem withDefault_of_find? (h : name.find? fields = some (spelling, v)) {a x : α} :
    name.withDefault a decode fields = .ok x ↔ decode v = .ok x := by
  rw [withDefault, h]
  exact Decoded.inside_eq_ok_iff

theorem required_of_find? (h : name.find? fields = some (spelling, v)) {x : α} :
    name.required decode fields = .ok x ↔ decode v = .ok x := by
  rw [required, h]
  exact Decoded.inside_eq_ok_iff

theorem withDefault_of_absent (h : name.find? fields = none) {a : α} :
    name.withDefault a decode fields = .ok a := by
  rw [withDefault, h]

theorem nullable_of_absent (h : name.find? fields = none) :
    name.nullable decode fields = .ok none := by
  rw [nullable, h]

theorem nullable_of_null (h : name.find? fields = some (spelling, .null)) :
    name.nullable decode fields = .ok none := by
  rw [nullable, h]

theorem nullable_of_find? (h : name.find? fields = some (spelling, v)) (hv : v ≠ .null)
    {o : Option α} : name.nullable decode fields = .ok o ↔ ∃ x, decode v = .ok x ∧ some x = o := by
  unfold nullable
  rw [h]
  cases v with
  | null => exact absurd rfl hv
  | _ => exact Decoded.inside_eq_ok_iff.trans Decoded.map_eq_ok_iff

/-- A value that is left out is the default one. -/
theorem eq_or_exists_of_withDefault {a x : α} (h : name.withDefault a decode fields = .ok x) :
    x = a ∨ ∃ f ∈ fields, decode f.2 = .ok x := by
  unfold withDefault at h
  split at h
  · next hf => exact Or.inr ⟨_, mem_of_find? hf, Decoded.inside_eq_ok_iff.1 h⟩
  · exact Or.inl (Decoded.ok.inj h).symm

theorem eq_or_exists_of_nullable {o : Option α} (h : name.nullable decode fields = .ok o) :
    o = none ∨ ∃ f ∈ fields, ∃ x, decode f.2 = .ok x ∧ o = some x := by
  unfold nullable at h
  split at h
  · exact Or.inl (Decoded.ok.inj h).symm
  · next hf =>
    obtain ⟨x, hx, h⟩ := Decoded.map_eq_ok_iff.1 (Decoded.inside_eq_ok_iff.1 h)
    exact Or.inr ⟨_, mem_of_find? hf, x, hx, h.symm⟩
  · exact Or.inl (Decoded.ok.inj h).symm

end FieldName

end TradingSignals
