import TradingSignals.Json.Reader

namespace TradingSignals

namespace JsonReader

variable {τ : Type} {g : JsonGrammar τ} {fuel room : Nat} {cs rest : List Char} {v : JsonTree τ}

/-- What is read of a value is a text, an array, an object or something without parts. -/
theorem value_eq_ok_iff : value g (fuel + 1) room cs = .ok (v, rest) ↔
    (∃ more s, cs = '"' :: more ∧ text g more = .ok (s, rest) ∧ v = .text s) ∨
    (∃ n more, room = n + 1 ∧ cs = '[' :: more ∧
      ((skipSpace more = ']' :: rest ∧ v = .array []) ∨
        ∃ vs, (∀ last, skipSpace more ≠ ']' :: last) ∧
          items g fuel n (skipSpace more) = .ok (vs, rest) ∧ v = .array vs)) ∨
    (∃ n more, room = n + 1 ∧ cs = '\x7b' :: more ∧
      ((skipSpace more = '\x7d' :: rest ∧ v = .object []) ∨
        ∃ fs, (∀ last, skipSpace more ≠ '\x7d' :: last) ∧
          fields g fuel n (skipSpace more) = .ok (fs, rest) ∧ v = .object fs)) ∨
    (∀ more, cs ≠ '"' :: more ∧ cs ≠ '[' :: more ∧ cs ≠ '\x7b' :: more) ∧
      atom g cs = .ok (v, rest) := by
  constructor
  · intro h
    rw [value.eq_def] at h
    split at h
    · cases h
    · next more _ =>
      left
      cases ht : text g more with
      | error fault =>
        rw [ht] at h
        cases h
      | ok r =>
        rw [ht] at h
        cases h
        exact ⟨more, r.1, rfl, ht, rfl⟩
    · next n more hf =>
      cases hf
      right; left
      refine ⟨n, more, rfl, rfl, ?_⟩
      split at h
      · next hskip =>
        cases h
        exact Or.inl ⟨hskip, rfl⟩
      · next hskip =>
        right
        split at h
        · next vs _ hi =>
          cases h
          exact ⟨vs, hskip, hi, rfl⟩
        · cases h
    · next n more hf =>
      cases hf
      right; right; left
      refine ⟨n, more, rfl, rfl, ?_⟩
      split at h
      · next hskip =>
        cases h
        exact Or.inl ⟨hskip, rfl⟩
      · next hskip =>
        right
        split at h
        · next fs _ hi =>
          cases h
          exact ⟨fs, hskip, hi, rfl⟩
        · cases h
    · cases h
    · cases h
    · next room _ _ _ _ _ htext harray hobject hdeep hdeep' =>
      -- a bracket that there is no room for is an error, so that none comes to the last case
      refine .inr (.inr (.inr ⟨?_, h⟩))
      intro more
      refine ⟨fun hm => htext fuel more rfl hm, ?_, ?_⟩
      · intro hm
        cases room with
        | zero => exact hdeep fuel more rfl rfl hm
        | succ n => exact harray fuel n more rfl rfl hm
      · intro hm
        cases room with
        | zero => exact hdeep' fuel more rfl rfl hm
        | succ n => exact hobject fuel n more rfl rfl hm
  · rintro (⟨more, s, rfl, ht, rfl⟩ | ⟨n, more, rfl, rfl, h⟩ | ⟨n, more, rfl, rfl, h⟩ |
      ⟨hother, h⟩)
    · rw [value, ht]
    · rcases h with ⟨hskip, rfl⟩ | ⟨vs, hskip, hi, rfl⟩
      · rw [value, hskip]
        rfl
      · rw [value]
        split
        · next last hlast => exact absurd hlast (hskip last)
        · rw [hi]
    · rcases h with ⟨hskip, rfl⟩ | ⟨fs, hskip, hi, rfl⟩
      · rw [value, hskip]
        rfl
      · rw [value]
        split
        · next last hlast => exact absurd hlast (hskip last)
        · rw [hi]
    · rw [value]
      · exact h
      · exact nofun
      · exact fun _ more _ hm => (hother more).1 hm
      · exact fun _ _ more _ _ hm => (hother more).2.1 hm
      · exact fun _ _ more _ _ hm => (hother more).2.2 hm
      · exact fun _ more _ _ hm => (hother more).2.1 hm
      · exact fun _ more _ _ hm => (hother more).2.2 hm

theorem items_eq_ok_iff {vs : List (JsonTree τ)} :
    items g (fuel + 1) room cs = .ok (vs, rest) ↔
      ∃ v after, value g fuel room cs = .ok (v, after) ∧
        ((skipSpace after = ']' :: rest ∧ vs = [v]) ∨
          ∃ more ws, skipSpace after = ',' :: more ∧
            items g fuel room (skipSpace more) = .ok (ws, rest) ∧ vs = v :: ws) := by
  constructor
  · intro h
    rw [items] at h
    split at h
    · cases h
    · next v after hv =>
      refine ⟨v, after, hv, ?_⟩
      split at h
      · next hskip =>
        cases h
        exact Or.inl ⟨hskip, rfl⟩
      · next more hskip =>
        split at h
        · next ws _ hi =>
          cases h
          exact Or.inr ⟨more, ws, hskip, hi, rfl⟩
        · cases h
      · cases h
  · rintro ⟨v, after, hv, ⟨hskip, rfl⟩ | ⟨more, ws, hskip, hi, rfl⟩⟩
    · rw [items, hv]
      simp only [hskip]
    · rw [items, hv]
      simp only [hskip, hi]

theorem fields_eq_ok_iff {fs : List (τ × JsonTree τ)} :
    fields g (fuel + 1) room cs = .ok (fs, rest) ↔
      ∃ quoted k behind colon v after, cs = '"' :: quoted ∧ text g quoted = .ok (k, behind) ∧
        skipSpace behind = ':' :: colon ∧
        value g fuel room (skipSpace colon) = .ok (v, after) ∧
        ((skipSpace after = '\x7d' :: rest ∧ fs = [(k, v)]) ∨
          ∃ more gs, skipSpace after = ',' :: more ∧
            fields g fuel room (skipSpace more) = .ok (gs, rest) ∧ fs = (k, v) :: gs) := by
  constructor
  · intro h
    rw [fields.eq_def] at h
    split at h
    · next quoted hf =>
      cases hf
      split at h
      · cases h
      · next k behind hk =>
        split at h
        · next colon hcolon =>
          split at h
          · cases h
          · next v after hv =>
            refine ⟨quoted, k, behind, colon, v, after, rfl, hk, hcolon, hv, ?_⟩
            split at h
            · next hskip =>
              cases h
              exact Or.inl ⟨hskip, rfl⟩
            · next more hskip =>
              split at h
              · next gs _ hi =>
                cases h
                exact Or.inr ⟨more, gs, hskip, hi, rfl⟩
              · cases h
            · cases h
        · cases h
    · cases h
  · rintro ⟨quoted, k, behind, colon, v, after, rfl, hk, hcolon, hv, h⟩
    rcases h with ⟨hskip, rfl⟩ | ⟨more, gs, hskip, hi, rfl⟩
    · rw [fields, hk]
      simp only [hcolon, hv, hskip]
    · rw [fields, hk]
      simp only [hcolon, hv, hskip, hi]

end JsonReader

theorem readJson_eq_ok_iff {τ : Type} {g : JsonGrammar τ} {s : String} {v : JsonTree τ} :
    readJson g s = .ok v ↔ ∃ rest,
      JsonReader.value g (2 * s.toList.length + 2) g.nesting (JsonReader.skipSpace s.toList) =
        .ok (v, rest) ∧ (JsonReader.skipSpace rest).isEmpty := by
  unfold readJson
  dsimp only
  cases JsonReader.value g (2 * s.toList.length + 2) g.nesting
    (JsonReader.skipSpace s.toList) with
  | error fault => simp
  | ok r =>
    obtain ⟨w, rest⟩ := r
    dsimp only
    split
    · next he =>
      constructor
      · intro h
        cases h
        exact ⟨rest, rfl, he⟩
      · rintro ⟨rest', hv, -⟩
        cases hv
        rfl
    · next he =>
      constructor
      · intro h
        cases h
      · rintro ⟨rest', hv, he'⟩
        cases hv
        exact absurd he' he

end TradingSignals
