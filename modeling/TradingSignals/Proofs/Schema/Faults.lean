import TradingSignals.Proofs.Schema.Decoded

namespace TradingSignals

/-- The same fault, seen from one step above. -/
def SchemaFault.under (step : LocStep) (f : SchemaFault) : SchemaFault :=
  { f with loc := step :: f.loc }

namespace Decoded

variable {α β : Type}

/-- All faults found, none when a value was decoded. -/
def faults : Decoded α → List SchemaFault
  | .ok _ => []
  | .faulty e => e

@[simp] theorem faults_map {f : α → β} {a : Decoded α} : (a.map f).faults = a.faults := by
  cases a <;> rfl

@[simp] theorem faults_fmap {f : α → β} {a : Decoded α} : (f <$> a).faults = a.faults :=
  faults_map

@[simp] theorem faults_seq {f : Decoded (α → β)} {a : Decoded α} :
    (f <*> a).faults = f.faults ++ a.faults := by
  cases f with
  | ok f => cases a <;> rfl
  | faulty e =>
    cases a with
    | ok a => exact (List.append_nil e).symm
    | faulty e' => rfl

@[simp] theorem faults_inside {step : LocStep} {a : Decoded α} :
    (a.inside step).faults = a.faults.map (SchemaFault.under step) := by
  cases a <;> rfl

theorem toExcept_of_mem_faults {a : Decoded α} {f : SchemaFault} (h : f ∈ a.faults) :
    a.toExcept = .error (.misfit a.faults) := by
  cases a with
  | ok a => cases h
  | faulty e => rfl

end Decoded

namespace FieldName

variable {α : Type} {name : FieldName} {k : String} {decode : Json → Decoded α} {v : Json}
  {fields : List (String × Json)} {f : SchemaFault}

/-- The value of a field reports its faults under the spelling it was found by. -/
theorem mem_faults_withDefault (h : name.find? fields = some (k, v)) {a : α}
    (hf : f ∈ (decode v).faults) :
    f.under (.key k) ∈ (name.withDefault a decode fields).faults := by
  rw [withDefault, h]
  dsimp only
  rw [Decoded.faults_inside]
  exact List.mem_map_of_mem hf

theorem mem_faults_nullable (h : name.find? fields = some (k, v)) (hv : v ≠ .null)
    (hf : f ∈ (decode v).faults) : f.under (.key k) ∈ (name.nullable decode fields).faults := by
  unfold nullable
  rw [h]
  cases v with
  | null => exact absurd rfl hv
  | _ =>
    dsimp only
    rw [Decoded.faults_inside, Decoded.faults_map]
    exact List.mem_map_of_mem hf

end FieldName

theorem Decode.mem_faults_indexed {α : Type} {decode : Json → Decoded α} {items : List Json}
    {i start : Nat} {v : Json} {f : SchemaFault} (hi : items[i]? = some v)
    (hf : f ∈ (decode v).faults) :
    f.under (.index (start + i)) ∈ (indexed decode start items).faults := by
  induction items generalizing i start with
  | nil => cases hi
  | cons w items ih =>
    rw [indexed, Decoded.faults_seq, Decoded.faults_fmap, Decoded.faults_inside, List.mem_append]
    cases i with
    | zero =>
      cases hi
      exact Or.inl (List.mem_map_of_mem hf)
    | succ i =>
      right
      rw [Nat.add_comm i, ← Nat.add_assoc]
      exact ih hi

end TradingSignals
