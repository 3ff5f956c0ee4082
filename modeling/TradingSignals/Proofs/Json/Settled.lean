import Mathlib.Logic.Function.Basic
import TradingSignals.Proofs.Json.Value

namespace TradingSignals

section

variable {α : Type} {fields : List (String × α)} {k key : String} {a : α}

theorem lastField?_append {more : List (String × α)} :
    lastField? k (fields ++ more) = (lastField? k more).or (lastField? k fields) := by
  induction fields with
  | nil => simp [lastField?]
  | cons f fields ih =>
    rw [List.cons_append, lastField?, ih, lastField?]
    cases lastField? k more with
    | some v => rfl
    | none => rfl

theorem lastField?_replace :
    lastField? k (fields.map fun f => if f.1 == key then (key, a) else f) =
      if key = k then (lastField? k fields).map fun _ => a else lastField? k fields := by
  induction fields with
  | nil => simp [lastField?]
  | cons f fields ih =>
    rw [List.map_cons, lastField?, ih, lastField?]
    by_cases hk : key = k
    · subst hk
      by_cases hf : f.1 = key
      · cases lastField? key fields <;> simp [hf]
      · cases lastField? key fields <;> simp [hf]
    · by_cases hf : f.1 = key
      · cases lastField? k fields <;> simp [hf, hk]
      · simp [hf, hk]

theorem lastField?_eq_none_iff : lastField? k fields = none ↔ k ∉ fields.map Prod.fst := by
  induction fields with
  | nil => simp [lastField?]
  | cons f fields ih =>
    rw [lastField?, List.map_cons, List.mem_cons, not_or, ← ih]
    cases lastField? k fields with
    | some v => simp
    | none => by_cases hk : k = f.1 <;> simp [hk, @eq_comm _ f.1 k]

theorem lastField?_eq_some_iff :
    lastField? k fields = some a ↔
      ∃ before after, fields = before ++ (k, a) :: after ∧ k ∉ after.map Prod.fst := by
  constructor
  · induction fields with
    | nil => exact nofun
    | cons f fields ih =>
      intro h
      rw [lastField?] at h
      cases hl : lastField? k fields with
      | some v =>
        rw [hl] at h
        obtain ⟨before, after, hfields, hk⟩ := ih (hl.trans h)
        exact ⟨f :: before, after, congrArg (f :: ·) hfields, hk⟩
      | none =>
        rw [hl] at h
        obtain ⟨key, b⟩ := f
        by_cases hk : key = k
        · subst hk
          rw [beq_self_eq_true, if_pos rfl] at h
          obtain rfl : b = a := Option.some.inj h
          exact ⟨[], fields, rfl, lastField?_eq_none_iff.1 hl⟩
        · simp [hk] at h
  · rintro ⟨before, after, rfl, hk⟩
    rw [lastField?_append, lastField?, lastField?_eq_none_iff.2 hk]
    simp

/-- What was put under a key is found there, and all else is found as before. -/
theorem lastField?_putField :
    lastField? k (putField fields key a) = if key = k then some a else lastField? k fields := by
  have hany : fields.any (·.1 == key) ↔ key ∈ fields.map Prod.fst := by simp
  unfold putField
  split
  · next h =>
    rw [lastField?_replace]
    split
    · next hk =>
      obtain ⟨v, hv⟩ := Option.ne_none_iff_exists'.1
        (mt lastField?_eq_none_iff.1 (not_not_intro (hany.1 h)))
      rw [← hk, hv]
      rfl
    · rfl
  · rw [lastField?_append, lastField?, lastField?]
    by_cases hk : key = k
    · simp [hk]
    · simp [hk]

/-- Of several values put under a key the last one is kept. -/
theorem lastField?_foldl_putField (more done : List (String × α)) :
    lastField? k (more.foldl (fun done f => putField done f.1 f.2) done) =
      (lastField? k more).or (lastField? k done) := by
  induction more generalizing done with
  | nil => rfl
  | cons f more ih =>
    rw [List.foldl_cons, ih, lastField?_putField, lastField?]
    cases lastField? k more with
    | some v => rfl
    | none => by_cases hk : f.1 = k <;> simp [hk]

/-- Where no key is repeated, the first value of one is its last. -/
theorem lookup_eq_lastField? (h : (fields.map Prod.fst).Nodup) :
    fields.lookup k = lastField? k fields := by
  induction fields with
  | nil => rfl
  | cons f fields ih =>
    obtain ⟨hf, hk⟩ := List.nodup_cons.1 h
    rw [List.lookup_cons, lastField?, ih hk]
    by_cases he : k = f.1
    · have hn : lastField? k fields = none := lastField?_eq_none_iff.2 (he ▸ hf)
      rw [hn]
      simp [he]
    · have hne : f.1 ≠ k := fun h => he h.symm
      simp [beq_false_of_ne he, beq_false_of_ne hne]

end

section

variable {τ : Type} [BEq τ]

theorem settledItems_eq {items : List (JsonTree τ)} :
    settledItems items = items.map JsonTree.settled := by
  induction items with
  | nil => rfl
  | cons v items ih => rw [settledItems, ih, List.map_cons]

theorem settledFields_eq {fields done : List (τ × JsonTree τ)} :
    settledFields done fields =
      (fields.map fun f => (f.1, f.2.settled)).foldl (fun done f => putField done f.1 f.2)
        done := by
  induction fields generalizing done with
  | nil => rfl
  | cons f fields ih =>
    obtain ⟨k, v⟩ := f
    rw [settledFields, ih, List.map_cons, List.foldl_cons]

theorem JsonTree.settled_array {items : List (JsonTree τ)} :
    (array items).settled = .array (items.map settled) := by
  rw [settled, settledItems_eq]

theorem JsonTree.settled_object {fields : List (τ × JsonTree τ)} :
    (object fields).settled = .object (settledFields [] fields) := by
  rw [settled]

end

/-- A key has the last of its values. -/
theorem lastField?_settledFields {fields : List (String × Json)} {k : String} :
    lastField? k (settledFields [] fields) = (lastField? k fields).map JsonTree.settled := by
  have hmap : lastField? k (fields.map fun f => (f.1, f.2.settled)) =
      (lastField? k fields).map JsonTree.settled := by
    induction fields with
    | nil => rfl
    | cons f fields ih =>
      rw [List.map_cons, lastField?, ih, lastField?]
      cases lastField? k fields with
      | some v => rfl
      | none => by_cases hk : f.1 = k <;> simp [hk]
  rw [settledFields_eq, lastField?_foldl_putField, hmap]
  exact Option.or_none

section

variable {τ υ α β : Type} [BEq τ] [LawfulBEq τ] [BEq υ] [LawfulBEq υ] {f : τ → υ}

theorem map_putField (hf : Function.Injective f) (g : α → β) (fields : List (τ × α)) (k : τ)
    (a : α) :
    (putField fields k a).map (Prod.map f g) =
      putField (fields.map (Prod.map f g)) (f k) (g a) := by
  have hbeq : ∀ x : τ × α, (f x.1 == f k) = (x.1 == k) := by
    intro x
    rw [Bool.eq_iff_iff, beq_iff_eq, beq_iff_eq, hf.eq_iff]
  have hany : (fields.map (Prod.map f g)).any (·.1 == f k) = fields.any (·.1 == k) := by
    rw [List.any_map]
    congr 1
    funext x
    exact hbeq x
  unfold putField
  rw [hany]
  split
  · rw [List.map_map, List.map_map]
    apply List.map_congr_left
    intro x _
    simp only [Function.comp_apply, Prod.map_fst, hbeq x]
    split <;> rfl
  · rw [List.map_append]
    rfl

theorem map_foldl_putField (hf : Function.Injective f) (g : α → β) (more done : List (τ × α)) :
    (more.foldl (fun done x => putField done x.1 x.2) done).map (Prod.map f g) =
      (more.map (Prod.map f g)).foldl (fun done x => putField done x.1 x.2)
        (done.map (Prod.map f g)) := by
  induction more generalizing done with
  | nil => rfl
  | cons x more ih =>
    rw [List.foldl_cons, ih, map_putField hf, List.map_cons, List.foldl_cons]
    rfl

/-- Merging repeated keys is the same before and after all texts are rewritten, if different texts
stay different. -/
theorem JsonTree.settled_mapText (hf : Function.Injective f) (v : JsonTree τ) :
    (v.mapText f).settled = v.settled.mapText f := by
  induction v using JsonTree.induct with
  | array items ih =>
    rw [settled_array, mapText, mapTextItems_eq, settled_array, mapText, mapTextItems_eq,
      List.map_map, List.map_map]
    exact congrArg array (List.map_congr_left ih)
  | object fields ih =>
    have hfields : ∀ fields : List (τ × JsonTree τ),
        mapTextFields f fields = fields.map (Prod.map f (mapText f)) := fun _ => mapTextFields_eq
    rw [settled_object, mapText, hfields, settled_object, mapText, hfields, settledFields_eq,
      settledFields_eq, map_foldl_putField hf, List.map_map, List.map_map, List.map_nil]
    congr 2
    apply List.map_congr_left
    intro x hx
    exact congrArg (Prod.mk (f x.1)) (ih x hx)
  | _ => rfl

end

end TradingSignals
