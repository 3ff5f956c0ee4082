import Mathlib.Data.List.Forall2

namespace TradingSignals

variable {α β : Type}

instance relDecidable (r : α → β → Prop) [∀ a b, Decidable (r a b)] :
    ∀ o o', Decidable (Option.Rel r o o')
  | none, none => isTrue .none
  | some a, some b => decidable_of_iff (r a b) ⟨.some, fun | .some h => h⟩
  | none, some _ => isFalse nofun
  | some _, none => isFalse nofun

theorem rel_getElem? {r : α → β → Prop} {as : List α} {bs : List β}
    (h : List.Forall₂ r as bs) (i : Nat) : Option.Rel r as[i]? bs[i]? := by
  induction h generalizing i with
  | nil => exact .none
  | cons hr _ ih =>
    cases i with
    | zero => exact .some hr
    | succ i => exact ih i

theorem exists_of_rel {r : α → β → Prop} {o : Option α} {o' : Option β} {a : α}
    (h : Option.Rel r o o') (ha : o = some a) : ∃ b, o' = some b ∧ r a b := by
  cases h with
  | none => cases ha
  | some hr =>
    cases ha
    exact ⟨_, rfl, hr⟩

theorem exists_of_rel_right {r : α → β → Prop} {o : Option α} {o' : Option β} {b : β}
    (h : Option.Rel r o o') (hb : o' = some b) : ∃ a, o = some a ∧ r a b := by
  cases h with
  | none => cases hb
  | some hr =>
    cases hb
    exact ⟨_, rfl, hr⟩

theorem rel_self {r : α → α → Prop} (hr : ∀ a, r a a) (o : Option α) : Option.Rel r o o := by
  cases o with
  | none => exact .none
  | some a => exact .some (hr a)

theorem rel_or {r : α → β → Prop} {o p : Option α} {o' p' : Option β} (h : Option.Rel r o o')
    (h' : Option.Rel r p p') : Option.Rel r (o.or p) (o'.or p') := by
  cases h with
  | none => exact h'
  | some hr => exact .some hr

theorem exists_mem_of_forall₂ {r : α → β → Prop} {as : List α} {bs : List β} {b : β}
    (h : List.Forall₂ r as bs) (hb : b ∈ bs) : ∃ a ∈ as, r a b := by
  obtain ⟨i, hi⟩ := List.mem_iff_getElem?.1 hb
  obtain ⟨a, ha, hr⟩ := exists_of_rel_right (rel_getElem? h i) hi
  exact ⟨a, List.mem_of_getElem? ha, hr⟩

theorem rel_imp {r s : α → β → Prop} {o : Option α} {o' : Option β}
    (h : Option.Rel r o o') (hs : ∀ a b, o = some a → r a b → s a b) : Option.Rel s o o' := by
  cases h with
  | none => exact .none
  | some hr => exact .some (hs _ _ rfl hr)

theorem forall₂_imp {r s : α → β → Prop} {as : List α} {bs : List β} (h : List.Forall₂ r as bs)
    (hs : ∀ a ∈ as, ∀ b, r a b → s a b) : List.Forall₂ s as bs :=
  ((List.forall₂_and_left as bs).2 ⟨hs, h⟩).imp fun _ b hab => hab.1 b hab.2

/-- Members of related lists are related where they stand. -/
theorem forall₂_at {r : α → β → Prop} {as : List α} {bs : List β}
    (h : List.Forall₂ r as bs) :
    List.Forall₂ (fun a b => r a b ∧ ∃ i : Nat, as[i]? = some a ∧ bs[i]? = some b) as bs := by
  rw [List.forall₂_iff_get] at h ⊢
  refine ⟨h.1, ?_⟩
  intro i ha hb
  exact ⟨h.2 i ha hb, i, List.getElem?_eq_getElem ha, List.getElem?_eq_getElem hb⟩

/-- When nothing is related to anything but itself, neither are lists. -/
theorem forall₂_iff_of_eq {r : α → α → Prop} {P : α → Prop} {as bs : List α}
    (h : ∀ a ∈ as, ∀ b, r a b ↔ P a ∧ b = a) :
    List.Forall₂ r as bs ↔ (∀ a ∈ as, P a) ∧ bs = as := by
  induction as generalizing bs with
  | nil => simp [List.forall₂_nil_left_iff]
  | cons a as ih =>
    have ha := h a List.mem_cons_self
    have ih : ∀ {bs}, List.Forall₂ r as bs ↔ (∀ a ∈ as, P a) ∧ bs = as :=
      ih fun b hb => h b (List.mem_cons_of_mem a hb)
    rw [List.forall₂_cons_left_iff, List.forall_mem_cons]
    simp only [ha, ih]
    constructor
    · rintro ⟨_, _, ⟨hP, rfl⟩, ⟨hPs, rfl⟩, rfl⟩
      exact ⟨⟨hP, hPs⟩, rfl⟩
    · rintro ⟨⟨hP, hPs⟩, rfl⟩
      exact ⟨a, as, ⟨hP, rfl⟩, ⟨hPs, rfl⟩, rfl⟩

end TradingSignals
