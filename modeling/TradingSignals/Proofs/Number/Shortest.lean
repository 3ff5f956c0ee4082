import TradingSignals.Proofs.Number.Rounding

namespace TradingSignals

theorem ten_pow_pos (a : Nat) : 0 < Nat.pow 10 a := Nat.pow_pos (by decide)

theorem ten_pow_add (a b : Nat) : Nat.pow 10 (a + b) = Nat.pow 10 a * Nat.pow 10 b :=
  Nat.pow_add 10 a b

namespace Decimal

variable {d : Decimal} {units : Nat}

/-- A decimal counts `num / den` units. -/
def num (d : Decimal) : Nat := d.digits * Nat.pow 10 d.exponent.toNat * Binary64.one

def den (d : Decimal) : Nat := Nat.pow 10 (-d.exponent).toNat

theorem den_pos (d : Decimal) : 0 < d.den := ten_pow_pos _

/-- The double that a decimal is read as. -/
def RoundsTo (d : Decimal) (units : Nat) : Prop := TradingSignals.RoundsTo d.num d.den units

/-- The same number with more zeros behind its digits. -/
def padded (d : Decimal) (zeros : Nat) : Decimal :=
  ⟨d.digits * Nat.pow 10 zeros, d.exponent - zeros⟩

theorem padded_padded {i j : Nat} : (d.padded i).padded j = d.padded (i + j) := by
  simp only [padded, mk.injEq]
  constructor
  · rw [Nat.mul_assoc, ten_pow_add]
  · omega

theorem num_padded_mul {zeros : Nat} :
    (d.padded zeros).num * d.den = d.num * (d.padded zeros).den := by
  have he : zeros + (d.exponent - zeros).toNat + (-d.exponent).toNat =
      d.exponent.toNat + (-(d.exponent - zeros)).toNat := by
    omega
  simp only [num, den, padded]
  calc d.digits * Nat.pow 10 zeros * Nat.pow 10 (d.exponent - zeros).toNat * Binary64.one *
          Nat.pow 10 (-d.exponent).toNat
      = d.digits * Binary64.one * (Nat.pow 10 zeros * Nat.pow 10 (d.exponent - zeros).toNat *
          Nat.pow 10 (-d.exponent).toNat) := by ring
    _ = d.digits * Binary64.one * (Nat.pow 10 d.exponent.toNat *
          Nat.pow 10 (-(d.exponent - zeros)).toNat) := by
        rw [← ten_pow_add, ← ten_pow_add, he, ten_pow_add]
    _ = d.digits * Nat.pow 10 d.exponent.toNat * Binary64.one *
          Nat.pow 10 (-(d.exponent - zeros)).toNat := by ring

theorem RoundsTo.padded (h : d.RoundsTo units) (zeros : Nat) : (d.padded zeros).RoundsTo units :=
  h.congr d.den_pos (den_pos _) num_padded_mul

theorem RoundsTo.of_padded {zeros : Nat} (h : (d.padded zeros).RoundsTo units) :
    d.RoundsTo units :=
  h.congr (den_pos _) d.den_pos num_padded_mul.symm

theorem exists_padded_trim (fuel : Nat) : ∃ zeros, (d.trim fuel).padded zeros = d := by
  induction fuel generalizing d with
  | zero => exact ⟨0, by simp [trim, padded]⟩
  | succ fuel ih =>
    rw [trim]
    split
    · next h =>
      obtain ⟨zeros, hz⟩ := ih (d := ⟨d.digits / 10, d.exponent + 1⟩)
      refine ⟨zeros + 1, ?_⟩
      rw [← padded_padded, hz]
      have hd : d.digits / 10 * Nat.pow 10 1 = d.digits :=
        Nat.div_mul_cancel (Nat.dvd_of_mod_eq_zero h.2)
      simp only [padded, hd, Nat.cast_one, Int.add_sub_cancel]
    · exact ⟨0, by simp [padded]⟩

theorem RoundsTo.trim (h : d.RoundsTo units) (fuel : Nat) : (d.trim fuel).RoundsTo units := by
  obtain ⟨zeros, hz⟩ := d.exists_padded_trim fuel
  exact .of_padded (hz ▸ h)

theorem RoundsTo.exponent_lt (h : d.RoundsTo units) (hd : d.digits ≠ 0) (hu : 0 < units)
    (hb : units < Binary64.bound) : d.exponent < 400 := by
  apply Int.lt_of_not_ge
  intro he
  have hden : d.den = 1 := by
    rw [den, Int.toNat_of_nonpos (by omega)]
  have hh := h.high
  have hg := gridAt_le hu
  rw [hden, Nat.mul_one, Nat.mul_one] at hh
  -- the exponents stay behind names, or the powers are computed
  obtain ⟨k, hk⟩ : ∃ k, 1074 = k := ⟨_, rfl⟩
  obtain ⟨l, hl⟩ : ∃ l, 1024 = l := ⟨_, rfl⟩
  obtain ⟨m, hm⟩ : ∃ m, 400 = m := ⟨_, rfl⟩
  have htwo : Nat.pow 2 l * 2 ≤ Nat.pow 10 m := by
    rw [← hl, ← hm]
    decide +kernel
  have hten : Nat.pow 10 m ≤ d.digits * Nat.pow 10 d.exponent.toNat :=
    calc Nat.pow 10 m ≤ Nat.pow 10 d.exponent.toNat :=
          Nat.pow_le_pow_right (by decide) (by omega)
      _ ≤ d.digits * Nat.pow 10 d.exponent.toNat :=
          Nat.le_mul_of_pos_left _ (Nat.pos_of_ne_zero hd)
  have hnum : Binary64.bound * 2 ≤ d.num :=
    calc Binary64.bound * 2 = Nat.pow 2 l * 2 * Binary64.one := by
          rw [Binary64.bound_eq (show 2098 = k + l by omega), Binary64.one_eq hk, two_pow_add k l,
            Nat.mul_right_comm]
      _ ≤ d.digits * Nat.pow 10 d.exponent.toNat * Binary64.one :=
          Nat.mul_le_mul_right _ (Nat.le_trans htwo hten)
  omega

theorem RoundsTo.lt_exponent (h : d.RoundsTo units) (hu : 0 < units) :
    0 < d.exponent + d.digits.log2 + 400 := by
  apply Int.lt_of_not_ge
  intro he
  have hl := h.low'
  have hg := Nat.mul_le_mul_right d.den (gridAt_le hu)
  have hle : d.den ≤ units * d.den := Nat.le_mul_of_pos_left _ hu
  obtain ⟨m, hm⟩ : ∃ m, 400 = m := ⟨_, rfl⟩
  have hone : 4 * Binary64.one ≤ Nat.pow 10 m := by
    rw [← hm]
    decide +kernel
  have htwo : Nat.pow 2 (d.digits.log2 + 1) = 2 * Nat.pow 2 d.digits.log2 := two_pow_add _ 1
  have hnum : d.num = d.digits * Binary64.one := by
    rw [num, Int.toNat_of_nonpos (by omega)]
    exact congrArg (· * Binary64.one) (Nat.mul_one _)
  have hden : 2 * d.num < d.den :=
    calc 2 * d.num = 2 * d.digits * Binary64.one := by rw [hnum, Nat.mul_assoc]
      _ < 2 * Nat.pow 2 (d.digits.log2 + 1) * Binary64.one :=
          Nat.mul_lt_mul_of_pos_right
            (Nat.mul_lt_mul_of_pos_left Nat.lt_log2_self (by decide)) Binary64.one_pos
      _ = Nat.pow 2 d.digits.log2 * (4 * Binary64.one) := by
          rw [htwo]
          ring
      _ ≤ Nat.pow 10 d.digits.log2 * Nat.pow 10 m :=
          Nat.mul_le_mul (Nat.pow_le_pow_left (by decide) _) hone
      _ = Nat.pow 10 (d.digits.log2 + m) := (ten_pow_add ..).symm
      _ ≤ d.den := Nat.pow_le_pow_right (by decide) (by omega)
  omega

theorem RoundsTo.digits_ne_zero (h : d.RoundsTo units) (hu : 0 < units) : d.digits ≠ 0 := by
  intro hz
  have hl := h.low'
  have hg := Nat.mul_le_mul_right d.den (gridAt_le hu)
  have hp := Nat.mul_pos hu d.den_pos
  rw [num, hz, Nat.zero_mul, Nat.zero_mul] at hl
  omega

theorem RoundsTo.ofDecimal_eq (h : d.RoundsTo units) (hu : 0 < units) {negative : Bool}
    (hf : Representable units) :
    Binary64.ofDecimal negative d.digits d.exponent = .finite negative units hf := by
  have hr : roundUnits d.num d.den = units := h.roundUnits_eq d.den_pos hu hf.2
  have ho : Binary64.ofRatio negative d.num d.den = .finite negative units hf := by
    simp only [Binary64.ofRatio, hr, dif_pos hf.1]
  have hz := h.digits_ne_zero hu
  have hlow := h.lt_exponent hu
  have hhigh := h.exponent_lt hz hu hf.1
  rw [Binary64.ofDecimal, if_neg hz, if_neg (by omega), if_neg (by omega)]
  rw [num, den] at ho
  split
  · next hs =>
    rw [Int.toNat_of_nonpos (show -d.exponent ≤ 0 by omega)] at ho
    exact ho
  · next hs =>
    rw [Int.toNat_of_nonpos (show d.exponent ≤ 0 by omega)] at ho
    have hn : d.digits * Nat.pow 10 0 = d.digits := Nat.mul_one _
    rw [hn] at ho
    exact ho

end Decimal

namespace OnGrid

variable {units n : Nat} {step : Int}

theorem roundsTo_of_readsBack (hu : 0 < units) (h : (OnGrid.of units step).readsBack n) :
    (Decimal.mk n step).RoundsTo units := by
  have hden : (Decimal.mk n step).den = Nat.pow 10 (-step).toNat := rfl
  have hnum : 4 * n * (OnGrid.of units step).den = 4 * (Decimal.mk n step).num := by
    simp only [OnGrid.of, Decimal.num]
    ring
  have hlow : (OnGrid.of units step).low =
      4 * (units * (Decimal.mk n step).den) - gapBelow units * (Decimal.mk n step).den := by
    simp only [OnGrid.of, gapBelow, hden, decide_eq_true_eq]
    rw [Nat.sub_mul, Nat.mul_assoc]
  have hhigh : (OnGrid.of units step).high =
      4 * (units * (Decimal.mk n step).den) + 2 * (gridAt units * (Decimal.mk n step).den) := by
    simp only [OnGrid.of, hden]
    ring
  simp only [readsBack, hnum, hlow, hhigh, Bool.and_eq_true, Bool.or_eq_true, decide_eq_true_eq,
    beq_iff_eq] at h
  have hgap := Nat.mul_le_mul_right (Decimal.mk n step).den (gapBelow_le units)
  have hg := Nat.mul_le_mul_right (Decimal.mk n step).den (gridAt_le hu)
  have hp := Nat.mul_pos (gridAt_pos units) (Decimal.mk n step).den_pos
  rw [Nat.mul_assoc] at hgap
  have hclosed : (OnGrid.of units step).closed = true ↔ units / gridAt units % 2 = 0 := by
    simp only [OnGrid.of, decide_eq_true_eq]
  rw [hclosed] at h
  refine ⟨by omega, by omega, ?_⟩
  intro ho
  omega

theorem readsBack_of_point? {g : OnGrid} {n : Nat} (h : g.point? = some n) : g.readsBack n := by
  unfold point? at h
  dsimp only at h
  split at h
  · next h1 h2 =>
    cases h
    have hle := roundDiv_le g.num g.den
    have hge := le_roundDiv g.num g.den
    rcases Nat.eq_or_lt_of_le hge with he | hlt
    · rwa [← he]
    · rwa [show roundDiv g.num g.den = g.num / g.den + 1 by omega]
  · next h1 h2 =>
    cases h
    exact h1
  · next h1 h2 =>
    cases h
    exact h2
  · cases h

end OnGrid

theorem pow_le_pow_of_ratio {x y a b z k : Nat} (hx : 0 < x) (hb : b ≠ 0)
    (h : Nat.pow x a ≤ Nat.pow y b) (hk : k * b ≤ a * z) : Nat.pow x k ≤ Nat.pow y z := by
  change x ^ a ≤ y ^ b at h
  change x ^ k ≤ y ^ z
  rw [← Nat.pow_le_pow_iff_left hb]
  calc (x ^ k) ^ b = x ^ (k * b) := (Nat.pow_mul ..).symm
    _ ≤ x ^ (a * z) := Nat.pow_le_pow_right hx hk
    _ = (x ^ a) ^ z := Nat.pow_mul ..
    _ ≤ (y ^ b) ^ z := Nat.pow_le_pow_left h z
    _ = (y ^ z) ^ b := by rw [← Nat.pow_mul, ← Nat.pow_mul, Nat.mul_comm]

/-- The logarithm of two that the scale is found with is a little too great, but not so much that
it counts among the doubles. -/
theorem ten_pow_le_two_pow {z k : Nat} (hz : z ≤ 1023) (h : k * 100000 ≤ z * 30103) :
    Nat.pow 10 k ≤ Nat.pow 2 z := by
  obtain ⟨a, ha⟩ : ∃ a, 643 = a := ⟨_, rfl⟩
  obtain ⟨b, hb⟩ : ∃ b, 2136 = b := ⟨_, rfl⟩
  have hk : k * b ≤ a * z := by
    subst ha hb
    lia
  have hab : Nat.pow 10 a ≤ Nat.pow 2 b := by
    rw [← ha, ← hb]
    decide +kernel
  exact pow_le_pow_of_ratio (by decide) (by omega) hab hk

theorem two_pow_le_ten_pow {z k : Nat} (hz : z ≤ 1074) (h : z * 30103 ≤ k * 100000) :
    Nat.pow 2 z ≤ Nat.pow 10 k := by
  obtain ⟨a, ha⟩ : ∃ a, 485 = a := ⟨_, rfl⟩
  obtain ⟨b, hb⟩ : ∃ b, 146 = b := ⟨_, rfl⟩
  have hk : z * b ≤ a * k := by
    subst ha hb
    omega
  have hab : Nat.pow 2 a ≤ Nat.pow 10 b := by
    rw [← ha, ← hb]
    decide +kernel
  exact pow_le_pow_of_ratio (by decide) (by omega) hab hk

section

variable {units : Nat}

theorem le_of_lower_scale {k : Int} (hu : 0 < units) (hb : units < Binary64.bound)
    (hk : k = ((units.log2 : Int) - 1074) * 30103 / 100000) :
    Nat.pow 10 k.toNat * Binary64.one ≤ units * Nat.pow 10 (-k).toNat := by
  obtain ⟨o, ho⟩ : ∃ o, 1074 = o := ⟨_, rfl⟩
  obtain ⟨l, hl⟩ : ∃ l, 2098 = l := ⟨_, rfl⟩
  have he := two_pow_log2_le hu
  have hlt : units.log2 < l := log2_lt_of_lt hu (Binary64.bound_eq hl ▸ hb)
  rw [Binary64.one_eq ho]
  by_cases hz : o ≤ units.log2
  · have hn : (-k).toNat = 0 := by omega
    have hp : Nat.pow 10 k.toNat ≤ Nat.pow 2 (units.log2 - o) :=
      ten_pow_le_two_pow (by omega) (by omega)
    calc Nat.pow 10 k.toNat * Nat.pow 2 o
        ≤ Nat.pow 2 (units.log2 - o) * Nat.pow 2 o := Nat.mul_le_mul_right _ hp
      _ = Nat.pow 2 units.log2 := by
          rw [← two_pow_add, Nat.add_sub_cancel' hz]
      _ ≤ units * Nat.pow 10 (-k).toNat := by
          rw [hn]
          exact Nat.le_trans he (Nat.le_of_eq (Nat.mul_one _).symm)
  · have hn : k.toNat = 0 := by omega
    have hp : Nat.pow 2 (o - units.log2) ≤ Nat.pow 10 (-k).toNat :=
      two_pow_le_ten_pow (by omega) (by omega)
    calc Nat.pow 10 k.toNat * Nat.pow 2 o
        = Nat.pow 2 units.log2 * Nat.pow 2 (o - units.log2) := by
          rw [hn, ← two_pow_add, Nat.sub_add_cancel (by omega)]
          exact Nat.one_mul _
      _ ≤ units * Nat.pow 10 (-k).toNat := Nat.mul_le_mul he hp

/-- A double has at least as many digits as its scale says. -/
theorem le_of_decimalScale (hu : 0 < units) (hb : units < Binary64.bound) {k : Int}
    (hk : decimalScale units = k + 1) :
    Nat.pow 10 k.toNat * Binary64.one ≤ units * Nat.pow 10 (-k).toNat := by
  unfold decimalScale at hk
  dsimp only at hk
  have hl := le_of_lower_scale hu hb rfl
  simp only [decide_eq_true_eq] at hk
  rw [if_neg (Nat.not_lt.2 hl)] at hk
  split at hk
  · rw [show k = ((units.log2 : Int) - 1074) * 30103 / 100000 by omega]
    exact hl
  · next hn =>
    rw [show k = ((units.log2 : Int) - 1074) * 30103 / 100000 + 1 by omega]
    exact Nat.not_lt.1 hn

theorem two_mul_le_gapBelow (units : Nat) : 2 * units ≤ 2 ^ 53 * gapBelow units := by
  have hs : Nat.pow 2 (units.log2 - 52 + 53) = 2 ^ 53 * gridAt units := two_pow_add _ 53
  have ht : Nat.pow 2 (units.log2 - 52 + 52) = 2 ^ 52 * gridAt units := two_pow_add _ 52
  unfold gapBelow
  split
  · next h =>
    rw [Nat.sub_add_cancel (by omega), ← h.2] at ht
    omega
  · have hlt : units < Nat.pow 2 (units.log2 + 1) := Nat.lt_log2_self
    have hle : Nat.pow 2 (units.log2 + 1) ≤ Nat.pow 2 (units.log2 - 52 + 53) :=
      two_pow_le (by omega)
    omega

theorem roundDiv_near (num : Nat) {den : Nat} (hd : 0 < den) :
    2 * (roundDiv num den * den) ≤ 2 * num + den ∧
      2 * num ≤ 2 * (roundDiv num den * den) + den := by
  have hm := Nat.div_add_mod num den
  have hr := Nat.mod_lt num hd
  rw [Nat.mul_comm] at hm
  unfold roundDiv
  dsimp only
  split
  · omega
  · rw [Nat.add_mul]
    omega

/-- Seventeen digits tell all doubles apart. -/
theorem roundsTo_seventeen (hu : 0 < units) (hb : units < Binary64.bound) {step : Int}
    (hs : decimalScale units = step + 17) :
    (Decimal.mk (roundDiv (OnGrid.of units step).num (OnGrid.of units step).den) step).RoundsTo
      units := by
  have hle := le_of_decimalScale hu hb (show decimalScale units = step + 16 + 1 by omega)
  generalize hd : (OnGrid.of units step).den = width
  generalize hn : roundDiv (OnGrid.of units step).num width = n
  generalize hc : Nat.pow 10 (-step).toNat = den
  have hwidth : Nat.pow 10 step.toNat * Binary64.one = width := hd
  have hpos : 0 < width := by
    rw [← hwidth]
    exact Nat.mul_pos (ten_pow_pos _) Binary64.one_pos
  have hnear := roundDiv_near (OnGrid.of units step).num hpos
  have hnum : (OnGrid.of units step).num = units * den := by
    rw [← hc]
    rfl
  rw [hn, hnum] at hnear
  have hsmall : 10 ^ 16 * width ≤ units * den := by
    have hq : 0 < Nat.pow 10 (-(step + 16)).toNat := ten_pow_pos _
    apply Nat.le_of_mul_le_mul_right _ hq
    have he : 16 + step.toNat + (-(step + 16)).toNat = (step + 16).toNat + (-step).toNat := by
      omega
    calc 10 ^ 16 * width * Nat.pow 10 (-(step + 16)).toNat
        = Nat.pow 10 16 * Nat.pow 10 step.toNat * Nat.pow 10 (-(step + 16)).toNat *
            Binary64.one := by
          rw [← hwidth, show 10 ^ 16 = Nat.pow 10 16 from rfl]
          ring
      _ = Nat.pow 10 (step + 16).toNat * Binary64.one * den := by
          rw [← ten_pow_add, ← ten_pow_add, he, ten_pow_add, hc, Nat.mul_right_comm]
      _ ≤ units * Nat.pow 10 (-(step + 16)).toNat * den := Nat.mul_le_mul_right den hle
      _ = units * den * Nat.pow 10 (-(step + 16)).toNat := Nat.mul_right_comm ..
  have hgap : 2 * width < gapBelow units * den := by
    have h2 := Nat.mul_le_mul_right den (two_mul_le_gapBelow units)
    rw [Nat.mul_assoc, Nat.mul_assoc] at h2
    omega
  have hbelow := Nat.mul_le_mul_right den (gapBelow_le units)
  rw [Nat.mul_assoc] at hbelow
  have hvalue : (Decimal.mk n step).num = n * width := by
    rw [Decimal.num, Nat.mul_assoc, hwidth]
  have hdec : (Decimal.mk n step).den = den := hc
  unfold Decimal.RoundsTo
  rw [hvalue, hdec]
  refine ⟨by omega, by omega, ?_⟩
  intro _
  omega

theorem shortestFrom_roundsTo (hu : 0 < units) (hb : units < Binary64.bound) (more digits : Nat)
    (hd : more + digits = 17) :
    (shortestFrom units (decimalScale units) more digits).RoundsTo units := by
  induction more generalizing digits with
  | zero =>
    have hs : decimalScale units = decimalScale units - digits + 17 := by omega
    exact roundsTo_seventeen hu hb hs
  | succ more ih =>
    rw [shortestFrom]
    cases hp : (OnGrid.of units (decimalScale units - digits)).point? with
    | none => exact ih (digits + 1) (by omega)
    | some n => exact OnGrid.roundsTo_of_readsBack hu (OnGrid.readsBack_of_point? hp)

/-- The shortest decimal reads back. -/
theorem shortest_roundsTo (hu : 0 < units) (hb : units < Binary64.bound) :
    (shortest units).RoundsTo units := by
  have h : (shortestFrom units (decimalScale units) 16 1).RoundsTo units :=
    shortestFrom_roundsTo hu hb 16 1 rfl
  exact h.trim 17

end

end TradingSignals
