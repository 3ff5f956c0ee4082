import TradingSignals.Proofs.Json.Numeral
import TradingSignals.Proofs.Json.Reading
import TradingSignals.Proofs.Json.Value

namespace TradingSignals

namespace JsonReader

variable {negative : Bool} {room : Nat} {cs rest : List Char} {v : Json}

theorem isDigit_of_mem_wholePart {c : Char} (h : c ∈ wholePart cs) : c.isDigit := by
  unfold wholePart at h
  split at h
  · rw [List.mem_singleton.1 h]
    rfl
  · exact List.all_eq_true.1 List.all_takeWhile c h

theorem append_wholePart (cs : List Char) :
    wholePart cs ++ cs.drop (wholePart cs).length = cs := by
  have happend : cs.takeWhile Char.isDigit ++ cs.dropWhile Char.isDigit = cs :=
    List.takeWhile_append_dropWhile
  unfold wholePart
  split
  · next ds hd =>
    rw [hd] at happend
    rw [← happend]
    rfl
  · nth_rewrite 3 [← happend]
    rw [List.drop_left, happend]

/-- A number is a whole one or a double, whatever stands behind its first digits. -/
theorem magnitude_cases (h : magnitude .strict negative cs = .ok (v, rest)) :
    wholePart cs ≠ [] ∧ negative.toNat + (wholePart cs).length ≤ maxDigits ∧
      (v = .int (if negative then -digitsValue (wholePart cs) else digitsValue (wholePart cs)) ∨
        ∃ x, v = .float x) := by
  unfold magnitude at h
  dsimp only at h
  generalize (takeExponent _).getD _ = behind at h
  by_cases hne : (wholePart cs).isEmpty
  · rw [if_pos hne] at h
    cases h
  rw [if_neg hne] at h
  by_cases hl : maxDigits < negative.toNat + (wholePart cs).length
  · rw [if_pos (by simpa [JsonGrammar.strict] using hl)] at h
    cases h
  rw [if_neg (by simpa [JsonGrammar.strict] using hl)] at h
  refine ⟨by simpa using hne, by omega, ?_⟩
  by_cases hw : behind.2.length = (cs.drop (wholePart cs).length).length
  · rw [if_pos hw, if_neg (by omega)] at h
    cases h
    exact Or.inl rfl
  · rw [if_neg hw] at h
    cases h
    exact Or.inr ⟨_, rfl⟩

theorem magnitude_sound (h : magnitude .strict negative cs = .ok (v, rest)) : v.FitsIn room := by
  obtain ⟨hne, hl, rfl | ⟨x, rfl⟩⟩ := magnitude_cases h
  · have hw := length_intText_le negative (fun c hc => isDigit_of_mem_wholePart hc) hne
    exact JsonTree.fitsIn_int (by omega)
  · exact ⟨Nat.zero_le room, nofun⟩

theorem atom_sound (h : atom .strict cs = .ok (v, rest)) : v.FitsIn room := by
  unfold atom at h
  split at h
  iterate 6
    · cases h
      exact ⟨Nat.zero_le _, nofun⟩
  · exact magnitude_sound h
  · exact magnitude_sound h

/-- With so much fuel nothing is read that a document cannot spell. -/
structure SoundWith (fuel : Nat) : Prop where
  value : ∀ {room cs v rest}, value .strict fuel room cs = .ok (v, rest) → v.FitsIn room
  items : ∀ {room cs vs rest}, items .strict fuel room cs = .ok (vs, rest) →
    ∀ v ∈ vs, v.FitsIn room
  fields : ∀ {room cs fs rest}, fields .strict fuel room cs = .ok (fs, rest) →
    ∀ f ∈ fs, f.2.FitsIn room

theorem value_sound {fuel : Nat} (hs : SoundWith fuel)
    (h : value .strict (fuel + 1) room cs = .ok (v, rest)) : v.FitsIn room := by
  rcases value_eq_ok_iff.1 h with ⟨_, s, -, -, rfl⟩ | ⟨n, _, rfl, -, h⟩ | ⟨n, _, rfl, -, h⟩ | ⟨-, h⟩
  · exact ⟨Nat.zero_le _, nofun⟩
  · rcases h with ⟨-, rfl⟩ | ⟨vs, -, hi, rfl⟩
    · exact JsonTree.fitsIn_array_iff.2 nofun
    · exact JsonTree.fitsIn_array_iff.2 (hs.items hi)
  · rcases h with ⟨-, rfl⟩ | ⟨fs, -, hi, rfl⟩
    · exact JsonTree.fitsIn_object_iff.2 nofun
    · exact JsonTree.fitsIn_object_iff.2 (hs.fields hi)
  · exact atom_sound h

theorem items_sound {fuel : Nat} {vs : List Json} (hs : SoundWith fuel)
    (h : items .strict (fuel + 1) room cs = .ok (vs, rest)) : ∀ v ∈ vs, v.FitsIn room := by
  obtain ⟨v, after, hv, h⟩ := items_eq_ok_iff.1 h
  have hfirst := hs.value hv
  rcases h with ⟨-, rfl⟩ | ⟨more, ws, -, hi, rfl⟩
  · exact List.forall_mem_singleton.2 hfirst
  · exact List.forall_mem_cons.2 ⟨hfirst, hs.items hi⟩

theorem fields_sound {fuel : Nat} {fs : List (String × Json)} (hs : SoundWith fuel)
    (h : fields .strict (fuel + 1) room cs = .ok (fs, rest)) : ∀ f ∈ fs, f.2.FitsIn room := by
  obtain ⟨_, k, _, _, v, after, -, -, -, hv, h⟩ := fields_eq_ok_iff.1 h
  have hfirst := hs.value hv
  rcases h with ⟨-, rfl⟩ | ⟨more, gs, -, hi, rfl⟩
  · exact List.forall_mem_singleton.2 hfirst
  · exact List.forall_mem_cons.2 ⟨hfirst, hs.fields hi⟩

theorem soundWith (fuel : Nat) : SoundWith fuel := by
  induction fuel with
  | zero =>
    refine ⟨?_, ?_, ?_⟩
    · intro room cs v rest h
      rw [value.eq_def] at h
      cases h
    · intro room cs vs rest h
      cases h
    · intro room cs fs rest h
      rw [fields.eq_def] at h
      cases h
  | succ fuel ih => exact ⟨value_sound ih, items_sound ih, fields_sound ih⟩

end JsonReader

/-- What is read from a document text has at most so many levels as are let through, and whole
numbers that can be written again. -/
theorem fitsIn_of_readJson {s : String} {v : Json} (h : readJson .strict s = .ok v) :
    v.FitsIn 201 := by
  obtain ⟨rest, hv, -⟩ := readJson_eq_ok_iff.1 h
  exact (JsonReader.soundWith _).value hv

end TradingSignals
