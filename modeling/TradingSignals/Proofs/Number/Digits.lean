import Mathlib.Algebra.Group.Nat.Defs
import TradingSignals.Number.Numeral

namespace TradingSignals

theorem isDigit_of_mem_natText {n : Nat} {c : Char} (h : c ∈ natText n) : c.isDigit :=
  Nat.isDigit_of_mem_toDigits (by decide) (by decide) h

theorem natText_ne_nil (n : Nat) : natText n ≠ [] := Nat.toDigits_ne_nil

theorem length_natText_pos (n : Nat) : 0 < (natText n).length := Nat.length_toDigits_pos

theorem length_natText_le_iff {n k : Nat} (hk : 0 < k) : (natText n).length ≤ k ↔ n < 10 ^ k :=
  Nat.length_toDigits_le_iff (by decide) hk

/-- Only nought starts with a zero. -/
theorem head_natText {n : Nat} (hn : n ≠ 0) : (natText n).head? ≠ some '0' := by
  induction n using Nat.strongRecOn with
  | ind n ih =>
    unfold natText
    rw [Nat.toDigits_eq_if (by decide)]
    split
    · intro h
      exact hn (Nat.digitChar_eq_zero.1 (Option.some.inj h))
    · have hq : n / 10 ≠ 0 := by omega
      have hh := ih (n / 10) (by omega) hq
      have hne : (Nat.toDigits 10 (n / 10)).head?.isSome :=
        List.isSome_head?.2 (natText_ne_nil (n / 10))
      rw [List.head?_append, Option.or_of_isSome hne]
      exact hh

theorem digitsValue_natText (n : Nat) : digitsValue (natText n) = n :=
  Nat.ofDigitChars_ten_toDigits

theorem digitsValue_append (ds ds' : List Char) :
    digitsValue (ds ++ ds') = digitsValue ds * 10 ^ ds'.length + digitsValue ds' := by
  have h : digitsValue (ds ++ ds') = Nat.ofDigitChars 10 ds' (digitsValue ds) :=
    Nat.ofDigitChars_append 0
  rw [h, Nat.ofDigitChars_eq_ofDigitChars_zero, Nat.mul_comm]
  rfl

theorem digitsValue_zeros (n : Nat) : digitsValue (List.replicate n '0') = 0 :=
  Nat.ofDigitChars_replicate_zero

theorem digitsValue_zeros_append (n : Nat) (ds : List Char) :
    digitsValue (List.replicate n '0' ++ ds) = digitsValue ds := by
  rw [digitsValue_append, digitsValue_zeros, Nat.zero_mul, Nat.zero_add]

theorem digitsValue_append_zeros (ds : List Char) (n : Nat) :
    digitsValue (ds ++ List.replicate n '0') = digitsValue ds * 10 ^ n := by
  rw [digitsValue_append, digitsValue_zeros, List.length_replicate, Nat.add_zero]

theorem digit_le_nine {c : Char} (h : c.isDigit) : c.toNat - '0'.toNat ≤ 9 := by
  have hc : c.val ≤ '9'.val := by
    simp only [Char.isDigit, Bool.and_eq_true, decide_eq_true_eq] at h
    exact h.2
  have hn : c.toNat ≤ '9'.toNat := UInt32.le_iff_toNat_le.1 hc
  have h9 : '9'.toNat = 57 := rfl
  have h0 : '0'.toNat = 48 := rfl
  omega

theorem digitsValue_lt {ds : List Char} (h : ∀ c ∈ ds, c.isDigit) :
    digitsValue ds < 10 ^ ds.length := by
  induction ds with
  | nil => exact Nat.one_pos
  | cons c ds ih =>
    have hc := digit_le_nine (h c List.mem_cons_self)
    have hds := ih fun d hd => h d (List.mem_cons_of_mem c hd)
    have hv : digitsValue (c :: ds) = (c.toNat - '0'.toNat) * 10 ^ ds.length + digitsValue ds := by
      have := digitsValue_append [c] ds
      rw [show digitsValue [c] = c.toNat - '0'.toNat from by simp [digitsValue]] at this
      exact this
    rw [hv, List.length_cons, Nat.pow_succ]
    calc (c.toNat - '0'.toNat) * 10 ^ ds.length + digitsValue ds
        < (c.toNat - '0'.toNat) * 10 ^ ds.length + 10 ^ ds.length := by omega
      _ = (c.toNat - '0'.toNat + 1) * 10 ^ ds.length := by rw [Nat.add_mul, Nat.one_mul]
      _ ≤ 10 * 10 ^ ds.length := Nat.mul_le_mul_right _ (by omega)
      _ = 10 ^ ds.length * 10 := Nat.mul_comm ..

/-- No number is written with more digits than it was read from. -/
theorem length_natText_digitsValue_le {ds : List Char} (h : ∀ c ∈ ds, c.isDigit)
    (hne : ds ≠ []) : (natText (digitsValue ds)).length ≤ ds.length :=
  (length_natText_le_iff (List.length_pos_iff.2 hne)).2 (digitsValue_lt h)

theorem intText_eq {v : Int} :
    intText v = (if decide (v < 0) then ['-'] else []) ++ natText v.natAbs := by
  unfold intText
  by_cases h : v < 0 <;> simp [h]

theorem length_intText {v : Int} :
    (intText v).length = (decide (v < 0)).toNat + (natText v.natAbs).length := by
  rw [intText_eq]
  by_cases h : v < 0
  · simp [h, Nat.add_comm]
  · simp [h]

theorem length_intText_le (negative : Bool) {ds : List Char} (hd : ∀ c ∈ ds, c.isDigit)
    (hne : ds ≠ []) :
    (intText (if negative then -digitsValue ds else digitsValue ds)).length ≤
      negative.toNat + ds.length := by
  have hl := length_natText_digitsValue_le hd hne
  rw [length_intText]
  cases negative with
  | false =>
    have hs : ¬((digitsValue ds : Int) < 0) := by omega
    simpa [hs] using hl
  | true =>
    have hs := Bool.toNat_le (decide (-(digitsValue ds : Int) < 0))
    simp only [if_true, Int.natAbs_neg, Int.natAbs_natCast, Bool.toNat_true]
    omega

end TradingSignals
