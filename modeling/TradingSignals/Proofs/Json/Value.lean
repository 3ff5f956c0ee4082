import Mathlib.Data.List.Basic
import TradingSignals.Json.Value
import TradingSignals.Number.Numeral

namespace TradingSignals

variable {τ : Type}

/-- What holds of a container whenever it holds of its parts holds of every value. -/
theorem JsonTree.induct {motive : JsonTree τ → Prop} (null : motive .null)
    (bool : ∀ b, motive (.bool b)) (int : ∀ n, motive (.int n)) (float : ∀ x, motive (.float x))
    (text : ∀ s, motive (.text s))
    (array : ∀ items, (∀ v ∈ items, motive v) → motive (.array items))
    (object : ∀ fields, (∀ f ∈ fields, motive f.2) → motive (.object fields)) : ∀ v, motive v
  | .null => null
  | .bool b => bool b
  | .int n => int n
  | .float x => float x
  | .text s => text s
  | .array items => array items fun v hv => by
    have := List.sizeOf_lt_of_mem hv
    exact JsonTree.induct null bool int float text array object v
  | .object fields => object fields fun f hf => by
    have hfields := List.sizeOf_lt_of_mem hf
    have hpart : sizeOf f.2 < sizeOf f := by
      obtain ⟨k, v⟩ := f
      have hs := Prod.mk.sizeOf_spec k v
      dsimp only
      omega
    exact JsonTree.induct null bool int float text array object f.2

mutual

/-- Every whole number of a value. -/
def JsonTree.ints : JsonTree τ → List Int
  | .int n => [n]
  | .array items => intsOfItems items
  | .object fields => intsOfFields fields
  | _ => []

def intsOfItems : List (JsonTree τ) → List Int
  | [] => []
  | v :: items => v.ints ++ intsOfItems items

def intsOfFields : List (τ × JsonTree τ) → List Int
  | [] => []
  | (_, v) :: fields => v.ints ++ intsOfFields fields

end

theorem finiteItems_eq {items : List (JsonTree τ)} :
    finiteItems items = items.map JsonTree.finite := by
  induction items with
  | nil => rfl
  | cons v items ih => rw [finiteItems, ih, List.map_cons]

theorem finiteFields_eq {fields : List (τ × JsonTree τ)} :
    finiteFields fields = fields.map fun f => (f.1, f.2.finite) := by
  induction fields with
  | nil => rfl
  | cons f fields ih => rw [finiteFields, ih, List.map_cons]

@[simp] theorem JsonTree.finite_array {items : List (JsonTree τ)} :
    (JsonTree.array items).finite = .array (items.map JsonTree.finite) := by
  rw [finite, finiteItems_eq]

@[simp] theorem JsonTree.finite_object {fields : List (τ × JsonTree τ)} :
    (JsonTree.object fields).finite = .object (fields.map fun f => (f.1, f.2.finite)) := by
  rw [finite, finiteFields_eq]

theorem mapTextItems_eq {τ υ : Type} {f : τ → υ} {items : List (JsonTree τ)} :
    mapTextItems f items = items.map (JsonTree.mapText f) := by
  induction items with
  | nil => rfl
  | cons v items ih => rw [mapTextItems, ih, List.map_cons]

theorem mapTextFields_eq {τ υ : Type} {f : τ → υ} {fields : List (τ × JsonTree τ)} :
    mapTextFields f fields = fields.map fun x => (f x.1, x.2.mapText f) := by
  induction fields with
  | nil => rfl
  | cons x fields ih => rw [mapTextFields, ih, List.map_cons]

theorem depthOfItems_le_iff {items : List (JsonTree τ)} {room : Nat} :
    depthOfItems items ≤ room ↔ ∀ v ∈ items, v.depth ≤ room := by
  induction items with
  | nil => simp [depthOfItems]
  | cons v items ih => rw [depthOfItems, Nat.max_le, ih, List.forall_mem_cons]

theorem depthOfFields_le_iff {fields : List (τ × JsonTree τ)} {room : Nat} :
    depthOfFields fields ≤ room ↔ ∀ f ∈ fields, f.2.depth ≤ room := by
  induction fields with
  | nil => simp [depthOfFields]
  | cons f fields ih => rw [depthOfFields, Nat.max_le, ih, List.forall_mem_cons]

theorem JsonTree.depth_array_le_iff {items : List (JsonTree τ)} {room : Nat} :
    (JsonTree.array items).depth ≤ room + 1 ↔ ∀ v ∈ items, v.depth ≤ room := by
  rw [depth, Nat.add_le_add_iff_right, depthOfItems_le_iff]

theorem JsonTree.depth_object_le_iff {fields : List (τ × JsonTree τ)} {room : Nat} :
    (JsonTree.object fields).depth ≤ room + 1 ↔ ∀ f ∈ fields, f.2.depth ≤ room := by
  rw [depth, Nat.add_le_add_iff_right, depthOfFields_le_iff]

/-- Null stands no deeper than the double it is put for. -/
theorem JsonTree.depth_finite_le_iff {v : JsonTree τ} {room : Nat} :
    v.finite.depth ≤ room ↔ v.depth ≤ room := by
  induction v using JsonTree.induct generalizing room with
  | array items ih =>
    cases room with
    | zero => simp [depth]
    | succ room =>
      rw [finite_array, depth_array_le_iff, depth_array_le_iff, List.forall_mem_map]
      exact forall₂_congr fun v hv => ih v hv
  | object fields ih =>
    cases room with
    | zero => simp [depth]
    | succ room =>
      rw [finite_object, depth_object_le_iff, depth_object_le_iff, List.forall_mem_map]
      exact forall₂_congr fun f hf => ih f hf
  | float x =>
    rw [finite]
    split <;> simp [depth]
  | _ => exact Iff.rfl

theorem mem_intsOfItems {items : List (JsonTree τ)} {n : Int} :
    n ∈ intsOfItems items ↔ ∃ v ∈ items, n ∈ v.ints := by
  induction items with
  | nil => simp [intsOfItems]
  | cons v items ih => simp [intsOfItems, ih]

theorem mem_intsOfFields {fields : List (τ × JsonTree τ)} {n : Int} :
    n ∈ intsOfFields fields ↔ ∃ f ∈ fields, n ∈ f.2.ints := by
  induction fields with
  | nil => simp [intsOfFields]
  | cons f fields ih => simp [intsOfFields, ih]

namespace JsonTree

variable {room : Nat}

/-- What a document text can spell: containers no deeper than there is room for, and whole numbers
no longer than they may be. -/
structure FitsIn (room : Nat) (v : JsonTree τ) : Prop where
  depth : v.depth ≤ room
  ints : ∀ n ∈ v.ints, (intText n).length ≤ maxDigits

@[simp] theorem fitsIn_null : (null : JsonTree τ).FitsIn room := ⟨Nat.zero_le room, nofun⟩

@[simp] theorem fitsIn_bool {b : Bool} : (bool b : JsonTree τ).FitsIn room :=
  ⟨Nat.zero_le room, nofun⟩

@[simp] theorem fitsIn_float {x : Binary64} : (float x : JsonTree τ).FitsIn room :=
  ⟨Nat.zero_le room, fun _ hn => absurd hn List.not_mem_nil⟩

@[simp] theorem fitsIn_text {s : τ} : (text s : JsonTree τ).FitsIn room :=
  ⟨Nat.zero_le room, nofun⟩

theorem fitsIn_int {n : Int} (h : (intText n).length ≤ maxDigits) :
    (int n : JsonTree τ).FitsIn room where
  depth := Nat.zero_le room
  ints m hm := by
    rw [List.mem_singleton.1 hm]
    exact h

theorem fitsIn_array_iff {items : List (JsonTree τ)} :
    (array items).FitsIn (room + 1) ↔ ∀ v ∈ items, v.FitsIn room := by
  constructor
  · intro h v hv
    refine ⟨depth_array_le_iff.1 h.depth v hv, ?_⟩
    intro n hn
    exact h.ints n (mem_intsOfItems.2 ⟨v, hv, hn⟩)
  · intro h
    refine ⟨depth_array_le_iff.2 fun v hv => (h v hv).depth, ?_⟩
    intro n hn
    obtain ⟨v, hv, hn⟩ := mem_intsOfItems.1 hn
    exact (h v hv).ints n hn

theorem fitsIn_object_iff {fields : List (τ × JsonTree τ)} :
    (object fields).FitsIn (room + 1) ↔ ∀ f ∈ fields, f.2.FitsIn room := by
  constructor
  · intro h f hf
    refine ⟨depth_object_le_iff.1 h.depth f hf, ?_⟩
    intro n hn
    exact h.ints n (mem_intsOfFields.2 ⟨f, hf, hn⟩)
  · intro h
    refine ⟨depth_object_le_iff.2 fun f hf => (h f hf).depth, ?_⟩
    intro n hn
    obtain ⟨f, hf, hn⟩ := mem_intsOfFields.1 hn
    exact (h f hf).ints n hn

theorem FitsIn.pos_of_array {items : List (JsonTree τ)} (h : (array items).FitsIn room) :
    ∃ n, room = n + 1 := by
  have hd := h.depth
  rw [JsonTree.depth] at hd
  exact ⟨room - 1, by omega⟩

theorem FitsIn.pos_of_object {fields : List (τ × JsonTree τ)} (h : (object fields).FitsIn room) :
    ∃ n, room = n + 1 := by
  have hd := h.depth
  rw [JsonTree.depth] at hd
  exact ⟨room - 1, by omega⟩

end JsonTree

namespace JsonTree

/-- No whole number of a value is too long to be written. -/
def IntsFit (v : JsonTree τ) : Prop := ∀ n ∈ v.ints, (intText n).length ≤ maxDigits

theorem intsFit_array_iff {items : List (JsonTree τ)} :
    (array items).IntsFit ↔ ∀ v ∈ items, v.IntsFit := by
  simp only [IntsFit, ints, mem_intsOfItems]
  constructor
  · exact fun h v hv n hn => h n ⟨v, hv, hn⟩
  · exact fun h n ⟨v, hv, hn⟩ => h v hv n hn

theorem intsFit_object_iff {fields : List (τ × JsonTree τ)} :
    (object fields).IntsFit ↔ ∀ f ∈ fields, f.2.IntsFit := by
  simp only [IntsFit, ints, mem_intsOfFields]
  constructor
  · exact fun h f hf n hn => h n ⟨f, hf, hn⟩
  · exact fun h n ⟨f, hf, hn⟩ => h f hf n hn

theorem intsFit_finite_iff {v : JsonTree τ} : v.finite.IntsFit ↔ v.IntsFit := by
  induction v using JsonTree.induct with
  | array items ih =>
    rw [finite_array, intsFit_array_iff, intsFit_array_iff, List.forall_mem_map]
    exact forall₂_congr ih
  | object fields ih =>
    rw [finite_object, intsFit_object_iff, intsFit_object_iff, List.forall_mem_map]
    exact forall₂_congr ih
  | float x =>
    rw [finite]
    split <;> simp [IntsFit, ints]
  | _ => exact Iff.rfl

end JsonTree

namespace JsonTree

/-- No double of a value is infinite or no number. -/
def AllFinite (v : JsonTree τ) : Prop := v.all (·.isFinite) fun _ => true

@[simp] theorem allFinite_null : (null : JsonTree τ).AllFinite := rfl

@[simp] theorem allFinite_bool {b : Bool} : (bool b : JsonTree τ).AllFinite := rfl

@[simp] theorem allFinite_int {n : Int} : (int n : JsonTree τ).AllFinite := rfl

@[simp] theorem allFinite_text {s : τ} : (text s : JsonTree τ).AllFinite := rfl

@[simp] theorem allFinite_float_iff {x : Binary64} :
    (float x : JsonTree τ).AllFinite ↔ x.isFinite := by
  rw [AllFinite, all]

theorem allFinite_array_iff {items : List (JsonTree τ)} :
    (array items).AllFinite ↔ ∀ v ∈ items, v.AllFinite := by
  simp only [AllFinite, all]
  induction items with
  | nil => simp [allItems]
  | cons v items ih => rw [allItems, Bool.and_eq_true, ih, List.forall_mem_cons]

theorem allFinite_object_iff {fields : List (τ × JsonTree τ)} :
    (object fields).AllFinite ↔ ∀ f ∈ fields, f.2.AllFinite := by
  simp only [AllFinite, all]
  induction fields with
  | nil => simp [allFields]
  | cons f fields ih => rw [allFields, Bool.true_and, Bool.and_eq_true, ih, List.forall_mem_cons]

theorem allFinite_finite (v : JsonTree τ) : v.finite.AllFinite := by
  induction v using JsonTree.induct with
  | array items ih => rwa [finite_array, allFinite_array_iff, List.forall_mem_map]
  | object fields ih => rwa [finite_object, allFinite_object_iff, List.forall_mem_map]
  | float x =>
    rw [finite]
    split
    · next hx => exact hx
    · rfl
  | _ => rfl

end JsonTree

section

variable {α : Type} {fields : List (String × α)} {k : String} {a : α}

theorem mem_of_mem_putField {f : String × α} (h : f ∈ putField fields k a) :
    f ∈ fields ∨ f = (k, a) := by
  unfold putField at h
  split at h
  · obtain ⟨g, hg, rfl⟩ := List.mem_map.1 h
    split
    · exact Or.inr rfl
    · exact Or.inl hg
  · simpa using h

theorem map_fst_putField :
    (putField fields k a).map Prod.fst =
      if k ∈ fields.map Prod.fst then fields.map Prod.fst else fields.map Prod.fst ++ [k] := by
  have hk : (fields.any (·.1 == k)) = true ↔ k ∈ fields.map Prod.fst := by
    simp
  unfold putField
  by_cases h : k ∈ fields.map Prod.fst
  · rw [if_pos (hk.2 h), if_pos h, List.map_map]
    apply List.map_congr_left
    intro f hf
    by_cases he : f.1 = k
    · simp [he]
    · simp [he]
  · rw [if_neg (mt hk.1 h), if_neg h, List.map_append]
    rfl

theorem nodup_putField (h : (fields.map Prod.fst).Nodup) :
    ((putField fields k a).map Prod.fst).Nodup := by
  rw [map_fst_putField]
  split
  · exact h
  · next hk =>
    rw [List.nodup_append]
    refine ⟨h, by simp, ?_⟩
    intro x hx y hy
    rw [List.mem_singleton.1 hy]
    exact ne_of_mem_of_not_mem hx hk

theorem putField_of_not_mem (h : k ∉ fields.map Prod.fst) :
    putField fields k a = fields ++ [(k, a)] := by
  have ha : ¬(fields.any (·.1 == k)) = true := by simpa using h
  rw [putField, if_neg ha]

theorem lookup_of_mem {f : String × α} (hk : (fields.map Prod.fst).Nodup) (hf : f ∈ fields) :
    fields.lookup f.1 = some f.2 := by
  induction fields with
  | nil => cases hf
  | cons g fields ih =>
    obtain ⟨hg, hk⟩ := List.nodup_cons.1 hk
    rcases List.mem_cons.1 hf with rfl | hf
    · exact List.lookup_cons_self
    · have hne : f.1 ≠ g.1 := by
        intro he
        exact hg (he ▸ List.mem_map_of_mem hf)
      rw [List.lookup_cons, beq_false_of_ne hne]
      exact ih hk hf

theorem foldl_putField_sound (entries done : List (String × α))
    (hd : (done.map Prod.fst).Nodup) :
    ((entries.foldl (fun done e => putField done e.1 e.2) done).map Prod.fst).Nodup ∧
      ∀ f ∈ entries.foldl (fun done e => putField done e.1 e.2) done, f ∈ done ∨ f ∈ entries := by
  induction entries generalizing done with
  | nil => exact ⟨hd, fun f hf => Or.inl hf⟩
  | cons e entries ih =>
    obtain ⟨hn, hm⟩ := ih _ (nodup_putField hd)
    refine ⟨hn, ?_⟩
    intro f hf
    rcases hm f hf with h | h
    · rcases mem_of_mem_putField h with h | rfl
      · exact Or.inl h
      · exact Or.inr List.mem_cons_self
    · exact Or.inr (List.mem_cons_of_mem e h)

/-- Entries with different keys are put down as they stand. -/
theorem foldl_putField_of_nodup {entries done : List (String × α)}
    (h : ((done ++ entries).map Prod.fst).Nodup) :
    entries.foldl (fun done e => putField done e.1 e.2) done = done ++ entries := by
  induction entries generalizing done with
  | nil => exact (List.append_nil done).symm
  | cons e entries ih =>
    have he : e.1 ∉ done.map Prod.fst := by
      intro hm
      rw [List.map_append, List.nodup_append] at h
      exact h.2.2 _ hm _ (List.mem_map_of_mem List.mem_cons_self) rfl
    rw [List.foldl_cons, putField_of_not_mem he, ih, List.append_assoc]
    · rfl
    · rw [List.append_assoc]
      exact h

end

section

variable {υ : Type} {f : τ → υ}

theorem textsOfItems_eq {items : List (JsonTree τ)} :
    textsOfItems items = items.flatMap JsonTree.texts := by
  induction items with
  | nil => rfl
  | cons v items ih => rw [textsOfItems, ih, List.flatMap_cons]

theorem textsOfFields_eq {fields : List (τ × JsonTree τ)} :
    textsOfFields fields = fields.flatMap fun x => x.1 :: x.2.texts := by
  induction fields with
  | nil => rfl
  | cons x fields ih => rw [textsOfFields, ih, List.flatMap_cons]

theorem JsonTree.texts_mapText (v : JsonTree τ) : (v.mapText f).texts = v.texts.map f := by
  induction v using JsonTree.induct with
  | array items ih =>
    rw [mapText, mapTextItems_eq, texts, textsOfItems_eq, texts, textsOfItems_eq, List.map_flatMap,
      List.flatMap_map]
    exact List.flatMap_congr ih
  | object fields ih =>
    rw [mapText, mapTextFields_eq, texts, textsOfFields_eq, texts, textsOfFields_eq,
      List.map_flatMap, List.flatMap_map]
    apply List.flatMap_congr
    intro x hx
    rw [List.map_cons, ih x hx]
  | _ => rfl

theorem JsonTree.mapText_mapText_of_inverse {g : υ → τ} (h : ∀ t, g (f t) = t) (v : JsonTree τ) :
    (v.mapText f).mapText g = v := by
  induction v using JsonTree.induct with
  | text s => exact congrArg text (h s)
  | array items ih =>
    rw [mapText, mapTextItems_eq, mapText, mapTextItems_eq, List.map_map]
    exact congrArg array ((List.map_congr_left ih).trans (List.map_id' items))
  | object fields ih =>
    rw [mapText, mapTextFields_eq, mapText, mapTextFields_eq, List.map_map]
    apply congrArg object
    apply (List.map_congr_left _).trans (List.map_id' fields)
    intro x hx
    exact Prod.ext (h x.1) (ih x hx)
  | _ => rfl

end

namespace Json

/-- The value under a key of an object. -/
def field? (key : String) : Json → Option Json
  | .object fields => fields.lookup key
  | _ => none

end Json

end TradingSignals
