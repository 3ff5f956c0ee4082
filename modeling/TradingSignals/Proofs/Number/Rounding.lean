import Mathlib.Tactic.MkIffOfInductiveProp
import Mathlib.Tactic.Ring
import TradingSignals.Number.Shortest
import TradingSignals.Proofs.Number.Conversion

namespace TradingSignals

section

variable {num den units : Nat}

theorem gridAt_le (h : 0 < units) : gridAt units ≤ units :=
  Nat.le_trans (two_pow_le (Nat.sub_le ..)) (two_pow_log2_le h)

/-- A quotient is rounded to what it is no farther from than a half; to a half only when that is
even. -/
theorem roundDiv_eq {k : Nat} (hd : 0 < den) (low : 2 * (k * den) ≤ 2 * num + den)
    (high : 2 * num ≤ 2 * (k * den) + den)
    (odd : k % 2 = 1 → 2 * (k * den) < 2 * num + den ∧ 2 * num < 2 * (k * den) + den) :
    roundDiv num den = k := by
  have hm := Nat.div_add_mod num den
  have hr := Nat.mod_lt num hd
  rw [Nat.mul_comm] at hm
  unfold roundDiv
  dsimp only
  rcases Nat.lt_trichotomy k (num / den) with hlt | heq | hgt
  · have hle : (k + 1) * den ≤ num / den * den := Nat.mul_le_mul_right den hlt
    rw [Nat.add_mul] at hle
    omega
  · subst heq
    rw [if_pos]
    omega
  · have hle : (num / den + 1) * den ≤ k * den := Nat.mul_le_mul_right den hgt
    have hk : k = num / den + 1 := by
      apply Nat.le_antisymm _ hgt
      apply Nat.le_of_not_lt
      intro hlt
      have hle : (num / den + 1 + 1) * den ≤ k * den := Nat.mul_le_mul_right den hlt
      simp only [Nat.add_mul] at hle
      omega
    rw [if_neg, hk]
    rw [hk, Nat.add_mul] at low odd
    omega

theorem roundUnits_of_grid {g : Nat} (hd : 0 < den) (hg : gridAt (num / den) = g)
    (hu : g ∣ units) (low : 2 * (units * den) ≤ 2 * num + g * den)
    (high : 2 * num ≤ 2 * (units * den) + g * den)
    (odd : units / g % 2 = 1 →
      2 * (units * den) < 2 * num + g * den ∧ 2 * num < 2 * (units * den) + g * den) :
    roundUnits num den = units := by
  have hp : 0 < g := hg ▸ gridAt_pos _
  obtain ⟨k, rfl⟩ := hu
  have he : g * k * den = k * (den * g) := by ring
  have hc : g * den = den * g := Nat.mul_comm ..
  rw [Nat.mul_div_cancel_left _ hp] at odd
  rw [he, hc] at low high odd
  rw [roundUnits, hg, roundDiv_eq (Nat.mul_pos hd hp) low high odd, Nat.mul_comm]

/-- Four times the way from a double down to where the next lower one takes over. Just above a
power of two the doubles below lie twice as close. -/
def gapBelow (units : Nat) : Nat :=
  if 52 < units.log2 ∧ units = Nat.pow 2 units.log2 then gridAt units else 2 * gridAt units

theorem gapBelow_le (units : Nat) : gapBelow units ≤ 2 * gridAt units := by
  unfold gapBelow
  split <;> omega

/-- `num / den` units are no farther from a double than half the way to its neighbours, and nearer
when its last bit is one. -/
@[mk_iff]
structure RoundsTo (num den units : Nat) : Prop where
  low : 4 * (units * den) ≤ 4 * num + gapBelow units * den
  high : 4 * num ≤ 4 * (units * den) + 2 * (gridAt units * den)
  odd : units / gridAt units % 2 = 1 → 4 * (units * den) < 4 * num + gapBelow units * den ∧
    4 * num < 4 * (units * den) + 2 * (gridAt units * den)

namespace RoundsTo

theorem low' (h : RoundsTo num den units) :
    4 * (units * den) ≤ 4 * num + 2 * (gridAt units * den) := by
  have := Nat.mul_le_mul_right den (gapBelow_le units)
  rw [Nat.mul_assoc] at this
  have := h.low
  omega

theorem of_grid (h : RoundsTo num den units) (hd : 0 < den) (hf : gridAt units ∣ units)
    (hg : gridAt (num / den) = gridAt units) : roundUnits num den = units := by
  have hl := h.low'
  have hh := h.high
  refine roundUnits_of_grid hd hg hf (by omega) (by omega) ?_
  intro ho
  have ho := h.odd ho
  have hb := Nat.mul_le_mul_right den (gapBelow_le units)
  rw [Nat.mul_assoc] at hb
  omega

/-- The greatest double of a binade stays one step below the next binade. -/
theorem add_grid_le (hf : gridAt units ∣ units) :
    units + gridAt units ≤ Nat.pow 2 (units.log2 + 1) := by
  have hlt : units < Nat.pow 2 (units.log2 + 1) := Nat.lt_log2_self
  have hd : gridAt units ∣ Nat.pow 2 (units.log2 + 1) := Nat.pow_dvd_pow 2 (by omega)
  exact Nat.le_of_lt_add_of_dvd (by omega) (Nat.dvd_add_self_right.2 hf) hd

/-- What rounds to a double from the binade below it rounds to a power of two. -/
theorem eq_two_pow (h : RoundsTo num den units) (hu : 0 < units) (hf : gridAt units ∣ units)
    (hlt : num < Nat.pow 2 units.log2 * den) : units = Nat.pow 2 units.log2 := by
  have hle := two_pow_log2_le hu
  apply Nat.le_antisymm _ hle
  apply Nat.le_of_not_lt
  intro hgt
  have hd : gridAt units ∣ Nat.pow 2 units.log2 := Nat.pow_dvd_pow 2 (by omega)
  have hstep : Nat.pow 2 units.log2 + gridAt units ≤ units :=
    Nat.le_of_lt_add_of_dvd (by omega) (Nat.dvd_add_self_right.2 hd) hf
  have hm := Nat.mul_le_mul_right den hstep
  rw [Nat.add_mul] at hm
  have hl := h.low'
  omega

/-- Below a power of two the steps are half as wide, and the nearest of them is the power. -/
theorem below_two_pow (h : RoundsTo num den units) (hd : 0 < den) (hw : 52 < units.log2)
    (hp : units = Nat.pow 2 units.log2) (hlt : num < units * den) : roundUnits num den = units := by
  obtain ⟨s, hs⟩ : ∃ s, units.log2 = s + 53 := ⟨units.log2 - 53, by omega⟩
  have hg : gridAt units = 2 * Nat.pow 2 s := by
    rw [gridAt, hs]
    exact two_pow_add s 1
  have he : units = 2 * Nat.pow 2 (s + 52) := by
    rw [hp, hs]
    exact two_pow_add (s + 52) 1
  have hu : units = Nat.pow 2 s * 2 ^ 53 := by
    rw [hp, hs]
    exact Nat.pow_add 2 s 53
  have hl := h.low
  rw [gapBelow, if_pos ⟨hw, hp⟩, hg, Nat.mul_assoc] at hl
  have hq : Nat.pow 2 (s + 52) ≤ num / den := by
    rw [Nat.le_div_iff_mul_le hd]
    have hsmall := Nat.mul_le_mul_right den (two_pow_le (show s ≤ s + 52 by omega))
    rw [he, Nat.mul_assoc] at hl
    omega
  have hq' : num / den < Nat.pow 2 (s + 53) := by
    rw [Nat.div_lt_iff_lt_mul hd, ← hs, ← hp]
    exact hlt
  have hlog : (num / den).log2 = s + 52 := by
    have hpos : 0 < num / den := Nat.lt_of_lt_of_le (two_pow_pos _) hq
    have h1 := le_log2_of_le hq
    have h2 := log2_lt_of_lt hpos hq'
    omega
  have hgq : gridAt (num / den) = Nat.pow 2 s := by
    rw [gridAt, hlog]
    rfl
  refine roundUnits_of_grid hd hgq ⟨_, hu⟩ (by omega) (by omega) ?_
  intro ho
  rw [hu, Nat.mul_div_cancel_left _ (two_pow_pos s)] at ho
  omega

/-- A quotient is rounded to the double that it is so near to. -/
theorem roundUnits_eq (h : RoundsTo num den units) (hd : 0 < den) (hu : 0 < units)
    (hf : gridAt units ∣ units) : roundUnits num den = units := by
  have hlt : num / den < Nat.pow 2 (units.log2 + 1) := by
    rw [Nat.div_lt_iff_lt_mul hd]
    have hm := Nat.mul_le_mul_right den (add_grid_le hf)
    have hg := Nat.mul_pos (gridAt_pos units) hd
    rw [Nat.add_mul] at hm
    have hh := h.high
    omega
  by_cases hw : units.log2 ≤ 52
  · -- here all steps have the width one
    apply h.of_grid hd hf
    have hlog : (num / den).log2 ≤ 52 := by
      rcases Nat.eq_zero_or_pos (num / den) with hz | hz
      · rw [hz]
        decide
      · have := log2_lt_of_lt hz hlt
        omega
    rw [gridAt, gridAt, Nat.sub_eq_zero_of_le hw, Nat.sub_eq_zero_of_le hlog]
  · by_cases hb : num < Nat.pow 2 units.log2 * den
    · have hp := h.eq_two_pow hu hf hb
      exact h.below_two_pow hd (by omega) hp (hp ▸ hb)
    · apply h.of_grid hd hf
      have hq : Nat.pow 2 units.log2 ≤ num / den :=
        (Nat.le_div_iff_mul_le hd).2 (Nat.le_of_not_lt hb)
      have h1 := le_log2_of_le hq
      have h2 := log2_lt_of_lt (Nat.lt_of_lt_of_le (two_pow_pos _) hq) hlt
      rw [gridAt, gridAt, show (num / den).log2 = units.log2 by omega]

theorem scaled_iff {k : Nat} (hk : 0 < k) :
    RoundsTo (num * k) (den * k) units ↔ RoundsTo num den units := by
  have hu : 4 * (units * (den * k)) = 4 * (units * den) * k := by ring
  have hn : 4 * (num * k) = 4 * num * k := by ring
  have hb : gapBelow units * (den * k) = gapBelow units * den * k := by ring
  have hg : 2 * (gridAt units * (den * k)) = 2 * (gridAt units * den) * k := by ring
  rw [roundsTo_iff, roundsTo_iff, hu, hn, hb, hg]
  simp only [← Nat.add_mul, Nat.mul_le_mul_right_iff hk, Nat.mul_lt_mul_right hk]

/-- Only the quotient counts. -/
theorem congr {num' den' : Nat} (h : RoundsTo num den units) (hd : 0 < den) (hd' : 0 < den')
    (he : num' * den = num * den') : RoundsTo num' den' units := by
  rw [← scaled_iff hd, he, Nat.mul_comm den', scaled_iff hd']
  exact h

end RoundsTo

end

end TradingSignals
