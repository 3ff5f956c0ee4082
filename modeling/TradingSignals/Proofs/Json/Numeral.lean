import TradingSignals.Json.Reader
import TradingSignals.Proofs.Number.DecimalText

namespace TradingSignals

namespace JsonReader

open DecimalText

variable {τ : Type} {g : JsonGrammar τ} {negative : Bool} {whole ds rest : List Char}
  {exponent : Option (Bool × List Char)}

theorem wholePart_append (h : ∀ c ∈ whole, c.isDigit)
    (hz : whole.head? = some '0' → whole = ['0']) (hc : ∀ c ∈ rest.head?, c.isDigit = false) :
    wholePart (whole ++ rest) = whole := by
  unfold wholePart
  rw [takeWhile_of_stop h hc]
  split
  · exact (hz rfl).symm
  · rfl

/-- A point is looked at only when a digit stands behind the next character, whatever that is. -/
theorem guardedFraction_append (hd : ∀ c ∈ ds, c.isDigit)
    (hr : ∀ c ∈ rest.head?, c.isDigit = false ∧ c ≠ '.') :
    (if startsWithDigit ((fractionText ds ++ rest).drop 1) then
      takeFraction (fractionText ds ++ rest) else ([], fractionText ds ++ rest)) =
      (ds, rest) := by
  have ht := takeFraction_append hd hr
  by_cases hn : ds = []
  · subst hn
    rw [ht]
    exact ite_self _
  · have hs : startsWithDigit ((fractionText ds ++ rest).drop 1) := by
      rw [fractionText, if_neg hn]
      exact startsWithDigit_append hd hn
    rw [if_pos hs, ht]

theorem length_marks :
    rest.length = (fractionText ds ++ (exponentText exponent ++ rest)).length ↔
      ds = [] ∧ exponent = none := by
  have hf : (fractionText ds).length = 0 ↔ ds = [] := by
    unfold fractionText
    split <;> simp_all
  have hx : (exponentText exponent).length = 0 ↔ exponent = none := by
    cases exponent <;> simp [exponentText]
  rw [← hf, ← hx, List.length_append, List.length_append]
  omega

/-- What a number is read as depends on its parts only. -/
theorem magnitude_append (hw : ∀ c ∈ whole, c.isDigit) (hne : whole ≠ [])
    (hz : whole.head? = some '0' → whole = ['0']) (hd : ∀ c ∈ ds, c.isDigit)
    (hx : ∀ y ∈ exponent, y.2 ≠ [] ∧ ∀ c ∈ y.2, c.isDigit) (hr : EndsNumber rest)
    (hl : negative.toNat + whole.length ≤ maxDigits) :
    magnitude g negative (whole ++ (fractionText ds ++ (exponentText exponent ++ rest))) =
      if ds = [] ∧ exponent = none then
        .ok (.int (if negative then -digitsValue whole else digitsValue whole), rest)
      else
        .ok (.float (.ofDecimal negative (digitsValue (whole ++ ds))
          (exponentValue exponent - ds.length)), rest) := by
  have hwhole := wholePart_append hw hz (ends_whole exponent ds hr)
  have hfraction := guardedFraction_append hd (ends_fraction exponent hr)
  have hl1 : ¬maxDigits < negative.toNat + whole.length := by omega
  have hl2 : ¬maxDigits < whole.length := by omega
  unfold magnitude
  simp only [hwhole, List.drop_left, hfraction, takeExponent_append hx hr, Option.getD_some,
    List.isEmpty_iff, hne, hl1, hl2, decide_false, Bool.and_false, Bool.false_eq_true, if_false,
    length_marks]
  split
  · next h =>
    rw [h.1, h.2]
    rfl
  · rfl

theorem magnitude_decimalText {t : DecimalText} (hw : t.whole.length ≤ 16)
    (hr : EndsNumber rest) :
    magnitude g negative (t.text ++ rest) =
      .ok (.float (.ofDecimal negative t.decimal.digits t.decimal.exponent), rest) := by
  have hl : negative.toNat + t.whole.length ≤ maxDigits := by
    have := Bool.toNat_le negative
    unfold maxDigits
    omega
  have hn : ¬(t.fraction = [] ∧ t.exponent = none) := by
    intro h
    exact t.not_whole.elim (· h.1) (· h.2)
  rw [DecimalText.text, List.append_assoc, List.append_assoc,
    magnitude_append t.whole_digits t.whole_ne_nil t.zero_alone t.fraction_digits
      t.exponent_digits hr hl, if_neg hn]
  rfl

theorem magnitude_natText {n : Nat} (hl : negative.toNat + (natText n).length ≤ maxDigits)
    (hr : EndsNumber rest) :
    magnitude g negative (natText n ++ rest) = .ok (.int (if negative then -n else n), rest) := by
  have hz : (natText n).head? = some '0' → natText n = ['0'] := by
    intro h
    by_cases hn : n = 0
    · rw [hn]
      rfl
    · exact absurd h (head_natText hn)
  have h := @magnitude_append τ g negative (natText n) [] rest none
    (fun c hc => isDigit_of_mem_natText hc) (natText_ne_nil n) hz (by simp) (by simp) hr hl
  rw [if_pos ⟨rfl, rfl⟩, digitsValue_natText] at h
  exact h

theorem atom_digit {c : Char} {cs : List Char} (hc : c.isDigit) :
    atom g (c :: cs) = magnitude g false (c :: cs) := by
  rw [atom]
  -- no word and no sign starts with a digit
  all_goals
    intro cs' h
    cases h
    exact absurd hc (by decide)

theorem atom_minus {c : Char} {cs : List Char} (hc : c.isDigit) :
    atom g ('-' :: c :: cs) = magnitude g true (c :: cs) := by
  rw [atom]
  intro cs' h
  cases h
  exact absurd hc (by decide)

theorem atom_sign {cs : List Char} (hne : cs ≠ []) (hd : ∀ c ∈ cs.head?, c.isDigit) :
    atom g ((if negative then ['-'] else []) ++ cs) = magnitude g negative cs := by
  cases cs with
  | nil => exact absurd rfl hne
  | cons c cs =>
    cases negative with
    | false => exact atom_digit (hd c rfl)
    | true => exact atom_minus (hd c rfl)

theorem exists_sign_cons {cs : List Char} (hne : cs ≠ []) (hd : ∀ c ∈ cs.head?, c.isDigit) :
    ∃ c more, (if negative then ['-'] else []) ++ cs = c :: more ∧ (c = '-' ∨ c.isDigit) := by
  cases cs with
  | nil => exact absurd rfl hne
  | cons c cs =>
    cases negative with
    | false => exact ⟨c, cs, rfl, Or.inr (hd c rfl)⟩
    | true => exact ⟨'-', c :: cs, rfl, Or.inl rfl⟩

theorem head_digit (cs : List Char) (hne : whole ≠ []) (hw : ∀ c ∈ whole, c.isDigit) :
    ∀ c ∈ (whole ++ cs).head?, c.isDigit := by
  intro c hc
  rw [List.head?_append, Option.or_of_isSome (List.isSome_head?.2 hne)] at hc
  exact hw c (List.mem_of_mem_head? hc)

theorem exists_intText_cons {v : Int} :
    ∃ c cs, intText v = c :: cs ∧ (c = '-' ∨ c.isDigit) := by
  have hne := natText_ne_nil v.natAbs
  have hd := head_digit [] hne fun c hc => isDigit_of_mem_natText hc
  rw [List.append_nil] at hd
  rw [intText_eq]
  exact exists_sign_cons hne hd

/-- A whole number is read as itself, when it is not too long for that. -/
theorem atom_intText {v : Int} (hl : (intText v).length ≤ maxDigits) (hr : EndsNumber rest) :
    atom g (intText v ++ rest) = .ok (.int v, rest) := by
  have hne := natText_ne_nil v.natAbs
  have hd := head_digit rest hne fun c hc => isDigit_of_mem_natText hc
  have hv : (if decide (v < 0) then -(v.natAbs : Int) else v.natAbs) = v := by
    by_cases h : v < 0
    · rw [if_pos (decide_eq_true h)]
      omega
    · rw [if_neg (ne_true_of_eq_false (decide_eq_false h))]
      omega
  rw [length_intText] at hl
  rw [intText_eq, List.append_assoc, atom_sign (by simp [hne]) hd, magnitude_natText hl hr, hv]

theorem exists_text_cons (style : FloatStyle) {x : Binary64} (hx : x.isFinite) :
    ∃ c cs, style.text x = c :: cs ∧ (c = '-' ∨ c.isDigit) := by
  cases x with
  | nan => cases hx
  | infinite negative => cases hx
  | finite negative units fits =>
    obtain ⟨t, ht, -⟩ := style.text_finite
    have hne : t.text ≠ [] := by simp [DecimalText.text, t.whole_ne_nil]
    rw [ht]
    exact exists_sign_cons hne (head_digit _ t.whole_ne_nil t.whole_digits)

/-- A finite double is read as itself, in whatever style it is written. -/
theorem atom_float (style : FloatStyle) {x : Binary64} (hx : x.isFinite) (hr : EndsNumber rest) :
    atom g (style.text x ++ rest) = .ok (.float x, rest) := by
  cases x with
  | nan => cases hx
  | infinite negative => cases hx
  | finite negative units fits =>
    obtain ⟨t, ht, hw, hv⟩ := style.text_finite
    have hne : t.text ++ rest ≠ [] := by simp [DecimalText.text, t.whole_ne_nil]
    have hd : ∀ c ∈ (t.text ++ rest).head?, c.isDigit := by
      rw [DecimalText.text, List.append_assoc]
      exact head_digit _ t.whole_ne_nil t.whole_digits
    rw [ht, List.append_assoc, atom_sign hne hd, magnitude_decimalText hw hr, hv]

end JsonReader

end TradingSignals
