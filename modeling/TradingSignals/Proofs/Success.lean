namespace TradingSignals

variable {ε ε' α β : Type}

/-- A run that gives a result. -/
def Succeeds (r : Except ε α) : Prop := ∃ a, r = .ok a

theorem succeeds_ok (a : α) : Succeeds (.ok a : Except ε α) := ⟨a, rfl⟩

theorem not_succeeds_error {e : ε} : ¬Succeeds (.error e : Except ε α) := by
  intro h
  obtain ⟨a, h⟩ := h
  cases h

/-- A way to run a test on a result, whatever the errors are. -/
theorem any_toOption_iff {r : Except ε α} {p : α → Bool} :
    r.toOption.any p ↔ ∃ a, r = .ok a ∧ p a := by
  cases r with
  | error e => simp [Except.toOption]
  | ok a => simp [Except.toOption]

theorem bind_eq_ok_iff {r : Except ε α} {f : α → Except ε β} {b : β} :
    r >>= f = .ok b ↔ ∃ a, r = .ok a ∧ f a = .ok b := by
  cases r with
  | error e =>
    constructor
    · intro h
      cases h
    · intro h
      obtain ⟨a, ha, -⟩ := h
      cases ha
  | ok a =>
    constructor
    · intro h
      exact ⟨a, rfl, h⟩
    · intro h
      obtain ⟨a', ha, h⟩ := h
      cases ha
      exact h

theorem map_eq_ok_iff {r : Except ε α} {f : α → β} {b : β} :
    f <$> r = .ok b ↔ ∃ a, r = .ok a ∧ f a = b := by
  cases r with
  | error e =>
    constructor
    · intro h
      cases h
    · intro h
      obtain ⟨a, ha, -⟩ := h
      cases ha
  | ok a =>
    constructor
    · intro h
      exact ⟨a, rfl, Except.ok.inj h⟩
    · intro h
      obtain ⟨a', ha, h⟩ := h
      cases ha
      rw [← h]
      rfl

/-- What fails in a sequence is its first step, or the second behind a first that succeeds. -/
theorem bind_eq_error_iff {r : Except ε α} {f : α → Except ε β} {e : ε} :
    r >>= f = .error e ↔ r = .error e ∨ ∃ a, r = .ok a ∧ f a = .error e := by
  cases r with
  | error e' =>
    constructor
    · intro h
      cases h
      exact Or.inl rfl
    · intro h
      rcases h with h | ⟨a, ha, -⟩
      · cases h
        rfl
      · cases ha
  | ok a =>
    constructor
    · intro h
      exact Or.inr ⟨a, rfl, h⟩
    · intro h
      rcases h with h | ⟨a', ha, h⟩
      · cases h
      · cases ha
        exact h

/-- A sequence succeeds when its steps do, whatever the first one gives to the second. -/
theorem succeeds_bind_iff {r : Except ε α} {f : α → Except ε β} {p : Prop}
    (h : ∀ a, r = .ok a → (Succeeds (f a) ↔ p)) :
    Succeeds (r >>= f) ↔ Succeeds r ∧ p := by
  cases r with
  | error e =>
    have hb : ¬Succeeds (Except.error e >>= f) := not_succeeds_error
    exact iff_of_false hb fun hs => not_succeeds_error hs.1
  | ok a =>
    have hf := h a rfl
    rw [← hf]
    exact (and_iff_right (succeeds_ok a)).symm

theorem succeeds_map_iff {r : Except ε α} {f : α → β} : Succeeds (f <$> r) ↔ Succeeds r := by
  cases r with
  | error e => exact iff_of_false not_succeeds_error not_succeeds_error
  | ok a => exact iff_of_true (succeeds_ok (f a)) (succeeds_ok a)

theorem mapError_eq_ok_iff {r : Except ε α} {f : ε → ε'} {a : α} :
    r.mapError f = .ok a ↔ r = .ok a := by
  cases r with
  | error e => exact iff_of_false nofun nofun
  | ok b =>
    constructor
    · intro h
      exact congrArg Except.ok (Except.ok.inj h)
    · intro h
      exact congrArg Except.ok (Except.ok.inj h)

theorem succeeds_mapError_iff {r : Except ε α} {f : ε → ε'} :
    Succeeds (r.mapError f) ↔ Succeeds r := by
  cases r with
  | error e => exact iff_of_false not_succeeds_error not_succeeds_error
  | ok a => exact iff_of_true (succeeds_ok a) (succeeds_ok a)

/-- The error that a run ends with, if it does. -/
def failure? : Except ε α → Option ε
  | .error e => some e
  | .ok _ => none

theorem failure?_eq_some_iff {r : Except ε α} {e : ε} : failure? r = some e ↔ r = .error e := by
  cases r with
  | error e' => simp [failure?]
  | ok a => simp [failure?]

theorem failure?_eq_none_iff {r : Except ε α} : failure? r = none ↔ Succeeds r := by
  cases r with
  | error e => exact iff_of_false nofun not_succeeds_error
  | ok a => exact iff_of_true rfl (succeeds_ok a)

/-- A sequence fails as its first step does, or else as the rest. -/
theorem failure?_bind {r : Except ε α} {f : α → Except ε β} {o : Option ε}
    (h : ∀ a, r = .ok a → failure? (f a) = o) : failure? (r >>= f) = (failure? r).or o := by
  cases r with
  | error e => rfl
  | ok a => exact h a rfl

theorem failure?_map {r : Except ε α} {f : α → β} : failure? (f <$> r) = failure? r := by
  cases r with
  | error e => rfl
  | ok a => rfl

theorem failure?_mapError {r : Except ε α} {f : ε → ε'} :
    failure? (r.mapError f) = (failure? r).map f := by
  cases r with
  | error e => rfl
  | ok a => rfl

variable {α' β' : Type}

/-- Two runs end alike: with results that a relation holds between, or with the same error. -/
inductive Agree (rel : α → α' → Prop) : Except ε α → Except ε α' → Prop
  | ok {a : α} {a' : α'} (h : rel a a') : Agree rel (.ok a) (.ok a')
  | error (e : ε) : Agree rel (.error e) (.error e)

namespace Agree

variable {rel : α → α' → Prop} {rel' : β → β' → Prop} {r : Except ε α} {r' : Except ε α'}

theorem imp {rel'' : α → α' → Prop} (h : Agree rel r r')
    (hr : ∀ a a', rel a a' → rel'' a a') : Agree rel'' r r' := by
  cases h with
  | ok h => exact .ok (hr _ _ h)
  | error e => exact .error e

theorem map {f : α → β} {f' : α' → β'} (h : Agree rel r r')
    (hf : ∀ a a', rel a a' → rel' (f a) (f' a')) : Agree rel' (f <$> r) (f' <$> r') := by
  cases h with
  | ok h => exact .ok (hf _ _ h)
  | error e => exact .error e

theorem bind {f : α → Except ε β} {f' : α' → Except ε β'} (h : Agree rel r r')
    (hf : ∀ a a', rel a a' → Agree rel' (f a) (f' a')) : Agree rel' (r >>= f) (r' >>= f') := by
  cases h with
  | ok h => exact hf _ _ h
  | error e => exact .error e

/-- Behind runs that end alike, what does not tell their results apart comes to the same. -/
theorem bind_eq {f : α → Except ε β} {f' : α' → Except ε β} (h : Agree rel r r')
    (hf : ∀ a a', rel a a' → f a = f' a') : r >>= f = r' >>= f' := by
  cases h with
  | ok h => exact hf _ _ h
  | error e => rfl

theorem mapError (f : ε → ε') (h : Agree rel r r') :
    Agree rel (r.mapError f) (r'.mapError f) := by
  cases h with
  | ok h => exact .ok h
  | error e => exact .error (f e)

end Agree

end TradingSignals
