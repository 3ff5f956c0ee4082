import TradingSignals.Proofs.Success
import TradingSignals.Strategy.Scalar

namespace TradingSignals

theorem roundDiv_eq_div {num den : Nat} (h : 2 * (num % den) < den) :
    roundDiv num den = num / den := by
  unfold roundDiv
  rw [if_pos (Or.inl h)]

/-- From an odd quotient onward a half is rounded up. -/
theorem roundDiv_eq_succ {num den : Nat} (ho : num / den % 2 = 1)
    (h : den ≤ 2 * (num % den)) : roundDiv num den = num / den + 1 := by
  unfold roundDiv
  rw [if_neg (by omega)]

theorem le_roundDiv (num den : Nat) : num / den ≤ roundDiv num den := by
  unfold roundDiv
  dsimp only
  split <;> omega

theorem roundUnits_one (num : Nat) :
    roundUnits num 1 = roundDiv num (gridAt num) * gridAt num := by
  simp only [roundUnits, Nat.div_one, Nat.one_mul]

theorem two_pow_add (a b : Nat) : Nat.pow 2 (a + b) = Nat.pow 2 b * Nat.pow 2 a :=
  (Nat.pow_add 2 a b).trans (Nat.mul_comm ..)

theorem two_pow_pos (a : Nat) : 0 < Nat.pow 2 a := Nat.pow_pos (by decide)

theorem two_pow_le {a b : Nat} (h : a ≤ b) : Nat.pow 2 a ≤ Nat.pow 2 b :=
  Nat.pow_le_pow_right (by decide) h

theorem two_pow_log2_le {num : Nat} (h : 0 < num) : Nat.pow 2 num.log2 ≤ num :=
  Nat.log2_self_le (by omega)

theorem log2_lt_of_lt {num e : Nat} (h : 0 < num) (hb : num < Nat.pow 2 e) : num.log2 < e :=
  (Nat.log2_lt (by omega)).2 hb

theorem le_log2_of_le {num e : Nat} (h : Nat.pow 2 e ≤ num) : e ≤ num.log2 := by
  have hp : num ≠ 0 := by
    have := two_pow_pos e
    omega
  exact Nat.not_lt.1 fun hl => Nat.not_lt.2 h ((Nat.log2_lt hp).1 hl)

theorem gridAt_pos (num : Nat) : 0 < gridAt num := two_pow_pos _

/-- In the binade below `2^(s + 54)` the grid has the width `2^(s + 1)`, below that binade it is
finer. -/
theorem gridAt_cases {num s : Nat} (h : num < Nat.pow 2 (s + 54)) :
    gridAt num ≤ Nat.pow 2 s ∨
      gridAt num = Nat.pow 2 (s + 1) ∧ Nat.pow 2 (s + 53) ≤ num := by
  rcases Nat.eq_zero_or_pos num with rfl | hp
  · exact Or.inl (two_pow_pos s)
  have hl := log2_lt_of_lt hp h
  by_cases hs : num.log2 ≤ s + 52
  · exact Or.inl (two_pow_le (by omega))
  · have he : num.log2 = s + 53 := by omega
    refine Or.inr ⟨?_, ?_⟩
    · rw [gridAt, he]
      rfl
    · rw [← he]
      exact two_pow_log2_le hp

/-- What stays more than half a grid step below a power of two is rounded below it. -/
theorem roundUnits_lt {num s : Nat} (h : num + Nat.pow 2 s < Nat.pow 2 (s + 54)) :
    roundUnits num 1 < Nat.pow 2 (s + 54) := by
  rw [roundUnits_one]
  have hd := Nat.div_add_mod num (gridAt num)
  have hr := Nat.mod_lt num (gridAt_pos num)
  have h1 : Nat.pow 2 (s + 1) = 2 * Nat.pow 2 s := two_pow_add s 1
  have hb : Nat.pow 2 (s + 54) = 2 ^ 54 * Nat.pow 2 s := two_pow_add s 54
  rcases gridAt_cases (show num < Nat.pow 2 (s + 54) by omega) with hg | ⟨hg, -⟩
  · calc roundDiv num (gridAt num) * gridAt num
        ≤ (num / gridAt num + 1) * gridAt num := Nat.mul_le_mul_right _ (roundDiv_le ..)
      _ = gridAt num * (num / gridAt num) + gridAt num := by
          rw [Nat.add_mul, Nat.mul_comm, Nat.one_mul]
      _ < Nat.pow 2 (s + 54) := by omega
  · have hle : roundDiv num (gridAt num) ≤ 2 ^ 53 - 1 := by
      rw [hg, h1] at hd hr ⊢
      rw [hb] at h
      generalize Nat.pow 2 s = x at *
      have hq : num / (2 * x) < 2 ^ 53 := Nat.div_lt_of_lt_mul (by omega)
      by_cases hl : num / (2 * x) ≤ 2 ^ 53 - 2
      · exact Nat.le_trans (roundDiv_le ..) (by omega)
      · have he : num / (2 * x) = 2 ^ 53 - 1 := by omega
        rw [he] at hd
        have hn : roundDiv num (2 * x) = num / (2 * x) := roundDiv_eq_div (by omega)
        exact Nat.le_of_eq (hn.trans he)
    calc roundDiv num (gridAt num) * gridAt num
        ≤ (2 ^ 53 - 1) * gridAt num := Nat.mul_le_mul_right _ hle
      _ < Nat.pow 2 (s + 54) := by
          have hs := two_pow_pos s
          rw [hg, h1, hb]
          omega

/-- What comes up to half a grid step below a power of two is rounded up to it or beyond. -/
theorem le_roundUnits {num s : Nat} (h : Nat.pow 2 (s + 54) ≤ num + Nat.pow 2 s) :
    Nat.pow 2 (s + 54) ≤ roundUnits num 1 := by
  have hs := two_pow_pos s
  have hb : Nat.pow 2 (s + 54) = 2 ^ 54 * Nat.pow 2 s := two_pow_add s 54
  have hp : 0 < num := by omega
  rw [roundUnits_one]
  by_cases hn : num < Nat.pow 2 (s + 54)
  · have hl : num.log2 = s + 53 := by
      have h1 := log2_lt_of_lt hp hn
      have h3 : Nat.pow 2 (s + 53) = 2 ^ 53 * Nat.pow 2 s := two_pow_add s 53
      have h2 : s + 53 ≤ num.log2 := le_log2_of_le (by omega)
      omega
    have hg : gridAt num = 2 * Nat.pow 2 s := by
      rw [gridAt, hl]
      exact two_pow_add s 1
    rw [hb] at h hn ⊢
    rw [hg]
    generalize Nat.pow 2 s = x at *
    have hq : num / (2 * x) = 2 ^ 53 - 1 := by
      have h1 : num / (2 * x) < 2 ^ 53 := Nat.div_lt_of_lt_mul (by omega)
      have h2 : 2 ^ 53 - 1 ≤ num / (2 * x) := (Nat.le_div_iff_mul_le (by omega)).2 (by omega)
      omega
    have hd := Nat.div_add_mod num (2 * x)
    rw [hq] at hd
    have hn : roundDiv num (2 * x) = num / (2 * x) + 1 :=
      roundDiv_eq_succ (by omega) (by omega)
    rw [hn, hq]
    omega
  · have hl := two_pow_log2_le hp
    have he : s + 54 ≤ num.log2 := le_log2_of_le (by omega)
    have hs : num.log2 - 52 + 52 = num.log2 := Nat.sub_add_cancel (by omega)
    have hg : Nat.pow 2 num.log2 = 2 ^ 52 * gridAt num := by
      have := two_pow_add (num.log2 - 52) 52
      rwa [hs] at this
    have hq : 2 ^ 52 ≤ num / gridAt num :=
      (Nat.le_div_iff_mul_le (gridAt_pos num)).2 (by omega)
    calc Nat.pow 2 (s + 54) ≤ Nat.pow 2 num.log2 := two_pow_le he
      _ = 2 ^ 52 * gridAt num := hg
      _ ≤ roundDiv num (gridAt num) * gridAt num :=
          Nat.mul_le_mul_right _ (Nat.le_trans hq (le_roundDiv ..))

theorem roundUnits_lt_iff {num s : Nat} :
    roundUnits num 1 < Nat.pow 2 (s + 54) ↔ num + Nat.pow 2 s < Nat.pow 2 (s + 54) := by
  constructor
  · intro h
    apply Nat.not_le.1
    intro hn
    have := le_roundUnits hn
    omega
  · exact roundUnits_lt

theorem scaled_lt_iff {m k j l : Nat} :
    m * Nat.pow 2 k + Nat.pow 2 (k + j) < Nat.pow 2 (k + l) ↔
      m < Nat.pow 2 l - Nat.pow 2 j := by
  have hj : Nat.pow 2 (k + j) = Nat.pow 2 j * Nat.pow 2 k := two_pow_add k j
  have hl : Nat.pow 2 (k + l) = Nat.pow 2 l * Nat.pow 2 k := two_pow_add k l
  rw [hj, hl, ← Nat.add_mul, Nat.lt_sub_iff_add_lt]
  exact Nat.mul_lt_mul_right (two_pow_pos k)

namespace Binary64

theorem bound_eq {e : Nat} (h : 2098 = e) : bound = Nat.pow 2 e := by
  unfold bound
  rw [h]

theorem one_eq {e : Nat} (h : 1074 = e) : one = Nat.pow 2 e := by
  unfold one
  rw [h]

theorem one_pos : 0 < one := by
  -- the exponent stays behind a name, or the power is computed
  obtain ⟨e, he⟩ : ∃ e, 1074 = e := ⟨_, rfl⟩
  rw [one_eq he]
  exact two_pow_pos e

theorem isFinite_ofRatio {negative : Bool} {num den : Nat} :
    (ofRatio negative num den).isFinite ↔ roundUnits num den < bound := by
  unfold ofRatio
  split
  · next h => simp [isFinite, h]
  · next h => simp [isFinite, h]

/-- The first whole number that is rounded past the doubles: the middle between the greatest one
and the next power of two. -/
def wholeBound : Nat := Nat.pow 2 1024 - Nat.pow 2 970

theorem wholeBound_eq {j l : Nat} (hj : 970 = j) (hl : 1024 = l) :
    wholeBound = Nat.pow 2 l - Nat.pow 2 j := by
  unfold wholeBound
  rw [hj, hl]

theorem isFinite_ofInt {v : Int} : (ofInt v).isFinite ↔ v.natAbs < wholeBound := by
  -- the exponents stay behind names, or the powers are computed
  obtain ⟨k, hk⟩ : ∃ k, 1074 = k := ⟨_, rfl⟩
  obtain ⟨j, hj⟩ : ∃ j, 970 = j := ⟨_, rfl⟩
  obtain ⟨l, hl⟩ : ∃ l, 1024 = l := ⟨_, rfl⟩
  have hr : bound = Nat.pow 2 (k + j + 54) := bound_eq (by omega)
  have hb : bound = Nat.pow 2 (k + l) := bound_eq (by omega)
  rw [ofInt, isFinite_ofRatio, hr, roundUnits_lt_iff, ← hr, hb, one_eq hk, wholeBound_eq hj hl]
  exact scaled_lt_iff

end Binary64

/-- Whether there is a double nearest to a number. -/
def Number.converts : Number → Bool
  | .int v => (Binary64.ofInt v).isFinite
  | .float _ => true

theorem Number.toFloat_of_converts {n : Number} (h : n.converts) :
    n.toFloat = .ok n.toBinary64 := by
  cases n with
  | int v =>
    rw [converts] at h
    rw [toFloat, floatOfInt, h]
    rfl
  | float x => rfl

theorem Number.toFloat_of_not_converts {n : Number} (h : ¬n.converts) :
    n.toFloat = .error .tooLarge := by
  cases n with
  | int v =>
    rw [converts, Bool.not_eq_true] at h
    rw [toFloat, floatOfInt, h]
    rfl
  | float x => exact absurd rfl h

theorem Number.converts_int {v : Int} :
    (Number.int v).converts ↔ v.natAbs < Binary64.wholeBound := by
  rw [converts, Binary64.isFinite_ofInt]

namespace Scalar

theorem toFloat_of_number {v : Scalar} {n : Number} (h : v.number? = some n) :
    v.toFloat = n.toFloat := by
  cases v with
  | int v => cases h; rfl
  | float x => cases h; rfl
  | text s => cases h
  | flag b => cases h

/-- Whether a value can be turned into a double: a whole number that is not too large, or a text
that reads as a number. -/
def Converts : Scalar → Prop
  | .int v => v.natAbs < Binary64.wholeBound
  | .text s => (readFloatAnyScript? s.toList).isSome
  | .float _ | .flag _ => True

theorem toFloat_succeeds_iff {v : Scalar} : Succeeds v.toFloat ↔ v.Converts := by
  cases v with
  | int v =>
    rw [Converts, ← Number.converts_int, toFloat_of_number (n := .int v) rfl]
    by_cases h : (Number.int v).converts
    · rw [Number.toFloat_of_converts h]
      exact iff_of_true (succeeds_ok _) h
    · rw [Number.toFloat_of_not_converts h]
      exact iff_of_false not_succeeds_error h
  | float x => exact iff_of_true (succeeds_ok x) trivial
  | flag b => exact iff_of_true (succeeds_ok _) trivial
  | text s =>
    rw [toFloat, Converts]
    cases readFloatAnyScript? s.toList with
    | none => exact iff_of_false not_succeeds_error Bool.false_ne_true
    | some x => exact iff_of_true (succeeds_ok x) rfl

end Scalar

end TradingSignals
