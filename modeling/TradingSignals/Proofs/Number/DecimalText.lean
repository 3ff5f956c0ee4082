import TradingSignals.Proofs.Number.Digits
import TradingSignals.Proofs.Number.Shortest
import TradingSignals.Proofs.Text.Lines

namespace TradingSignals

/-- Text that no number goes on with. -/
def EndsNumber (cs : List Char) : Prop :=
  ∀ c ∈ cs.head?, c.isDigit = false ∧ c ≠ '.' ∧ c ≠ 'e' ∧ c ≠ 'E'

theorem endsNumber_nil : EndsNumber [] := nofun

theorem endsNumber_cons {c : Char} {cs : List Char} :
    EndsNumber (c :: cs) ↔ c.isDigit = false ∧ c ≠ '.' ∧ c ≠ 'e' ∧ c ≠ 'E' := by
  simp [EndsNumber]

section

variable {ds cs : List Char}

theorem startsWithDigit_append (h : ∀ c ∈ ds, c.isDigit) (hne : ds ≠ []) :
    startsWithDigit (ds ++ cs) = true := by
  cases ds with
  | nil => exact absurd rfl hne
  | cons d ds => exact h d List.mem_cons_self

end

/-- A number in digits: those before the point, those behind it, and an exponent whose sign is
always written; true is minus. -/
structure DecimalText where
  whole : List Char
  fraction : List Char
  exponent : Option (Bool × List Char)
  whole_digits : ∀ c ∈ whole, c.isDigit
  whole_ne_nil : whole ≠ []
  zero_alone : whole.head? = some '0' → whole = ['0']
  fraction_digits : ∀ c ∈ fraction, c.isDigit
  exponent_digits : ∀ x ∈ exponent, x.2 ≠ [] ∧ ∀ c ∈ x.2, c.isDigit
  not_whole : fraction ≠ [] ∨ exponent ≠ none

namespace DecimalText

def exponentText : Option (Bool × List Char) → List Char
  | none => []
  | some (negative, ds) => 'e' :: (if negative then '-' else '+') :: ds

def exponentValue : Option (Bool × List Char) → Int
  | none => 0
  | some (negative, ds) => if negative then -digitsValue ds else digitsValue ds

def fractionText (ds : List Char) : List Char := if ds = [] then [] else '.' :: ds

def text (t : DecimalText) : List Char :=
  t.whole ++ (fractionText t.fraction ++ exponentText t.exponent)

def decimal (t : DecimalText) : Decimal :=
  ⟨digitsValue (t.whole ++ t.fraction), exponentValue t.exponent - t.fraction.length⟩

variable {t : DecimalText} {rest : List Char}

theorem takeExponent_append {x : Option (Bool × List Char)}
    (hx : ∀ y ∈ x, y.2 ≠ [] ∧ ∀ c ∈ y.2, c.isDigit) (hr : EndsNumber rest) :
    takeExponent (exponentText x ++ rest) = some (exponentValue x, rest) := by
  cases x with
  | none =>
    cases rest with
    | nil => rfl
    | cons c cs =>
      obtain ⟨-, -, he, hE⟩ := endsNumber_cons.1 hr
      exact if_neg (not_or.2 ⟨he, hE⟩)
  | some y =>
    obtain ⟨negative, ds⟩ := y
    obtain ⟨hne, hd⟩ := hx _ rfl
    have hr' : ∀ c ∈ rest.head?, c.isDigit = false := fun c hc => (hr c hc).1
    have hs : takeSign ((if negative then '-' else '+') :: (ds ++ rest)) =
        (negative, ds ++ rest) := by
      cases negative <;> rfl
    show takeExponent ('e' :: (if negative then '-' else '+') :: (ds ++ rest)) = _
    rw [takeExponent, if_pos (Or.inl rfl), hs]
    simp only [startsWithDigit_append hd hne, takeWhile_of_stop hd hr', dropWhile_of_stop hd hr',
      if_true, exponentValue]

theorem takeFraction_append {ds : List Char} (hd : ∀ c ∈ ds, c.isDigit)
    (hr : ∀ c ∈ rest.head?, c.isDigit = false ∧ c ≠ '.') :
    takeFraction (fractionText ds ++ rest) = (ds, rest) := by
  have hr' : ∀ c ∈ rest.head?, c.isDigit = false := fun c hc => (hr c hc).1
  by_cases hn : ds = []
  · subst hn
    cases rest with
    | nil => rfl
    | cons c cs =>
      have hp := (hr c rfl).2
      unfold takeFraction
      split
      · next h =>
        cases h
        exact absurd rfl hp
      · rfl
  · rw [fractionText, if_neg hn, List.cons_append, takeFraction, takeWhile_of_stop hd hr',
      dropWhile_of_stop hd hr']

/-- Behind the digits of a fraction stands neither a digit nor a point. -/
theorem ends_fraction (x : Option (Bool × List Char)) (hr : EndsNumber rest) :
    ∀ c ∈ (exponentText x ++ rest).head?, c.isDigit = false ∧ c ≠ '.' := by
  intro c hc
  cases x with
  | none => exact ⟨(hr c hc).1, (hr c hc).2.1⟩
  | some y =>
    cases hc
    decide

theorem ends_whole (x : Option (Bool × List Char)) (ds : List Char) (hr : EndsNumber rest) :
    ∀ c ∈ (fractionText ds ++ (exponentText x ++ rest)).head?, c.isDigit = false := by
  intro c hc
  unfold fractionText at hc
  split at hc
  · exact (ends_fraction x hr c hc).1
  · cases hc
    decide

end DecimalText

theorem mem_zeros {n : Nat} {c : Char} (h : c ∈ List.replicate n '0') : c.isDigit := by
  rw [List.eq_of_mem_replicate h]
  rfl

theorem head_take_natText {n k : Nat} (hn : n ≠ 0) : ((natText n).take k).head? ≠ some '0' := by
  cases k with
  | zero => simp
  | succ k =>
    rw [List.head?_take, if_neg (by omega)]
    exact head_natText hn

theorem Decimal.padded_zero {d : Decimal} : d.padded 0 = d := by
  simp [padded]

namespace DecimalText

/-- All digits behind the point, and zeros before them. -/
def small (n zeros : Nat) : DecimalText where
  whole := ['0']
  fraction := List.replicate zeros '0' ++ natText n
  exponent := none
  whole_digits := by simp
  whole_ne_nil := by simp
  zero_alone := by simp
  fraction_digits c hc := (List.mem_append.1 hc).elim mem_zeros isDigit_of_mem_natText
  exponent_digits := by simp
  not_whole := by simp [natText_ne_nil]

/-- A point among the digits, the first of them before it. -/
def split (n k : Nat) (exponent : Option (Bool × List Char)) (hn : n ≠ 0)
    (he : ∀ x ∈ exponent, x.2 ≠ [] ∧ ∀ c ∈ x.2, c.isDigit)
    (hk : k + 1 < (natText n).length ∨ exponent ≠ none) : DecimalText where
  whole := (natText n).take (k + 1)
  fraction := (natText n).drop (k + 1)
  exponent := exponent
  whole_digits c hc := isDigit_of_mem_natText (List.mem_of_mem_take hc)
  whole_ne_nil := by simp [natText_ne_nil]
  zero_alone h := absurd h (head_take_natText hn)
  fraction_digits c hc := isDigit_of_mem_natText (List.mem_of_mem_drop hc)
  exponent_digits := he
  not_whole := hk.imp_left fun h => by simp [h]

/-- All digits before the point, and zeros behind them. -/
def large (n zeros : Nat) (hn : n ≠ 0) : DecimalText where
  whole := natText n ++ List.replicate zeros '0'
  fraction := ['0']
  exponent := none
  whole_digits c hc := (List.mem_append.1 hc).elim isDigit_of_mem_natText mem_zeros
  whole_ne_nil := by simp [natText_ne_nil]
  zero_alone h := by
    have hs := List.isSome_head?.2 (natText_ne_nil n)
    rw [List.head?_append, Option.or_of_isSome hs] at h
    exact absurd h (head_natText hn)
  fraction_digits := by simp
  exponent_digits := by simp
  not_whole := by simp

variable {n k zeros : Nat} {exponent : Option (Bool × List Char)} {hn : n ≠ 0}

theorem decimal_small : (small n zeros).decimal = ⟨n, -(zeros + (natText n).length : Nat)⟩ := by
  have hv : digitsValue ('0' :: (List.replicate zeros '0' ++ natText n)) = n := by
    have := digitsValue_zeros_append (zeros + 1) (natText n)
    rwa [digitsValue_natText] at this
  simp [decimal, small, exponentValue, hv]

theorem decimal_split {he : ∀ x ∈ exponent, x.2 ≠ [] ∧ ∀ c ∈ x.2, c.isDigit}
    {hk : k + 1 < (natText n).length ∨ exponent ≠ none} :
    (split n k exponent hn he hk).decimal =
      ⟨n, exponentValue exponent - ((natText n).length - (k + 1) : Nat)⟩ := by
  simp [decimal, split, digitsValue_natText]

theorem decimal_large :
    (large n zeros hn).decimal = (Decimal.mk n zeros).padded (zeros + 1) := by
  have hv : digitsValue (natText n ++ List.replicate zeros '0' ++ ['0']) =
      n * Nat.pow 10 (zeros + 1) := by
    rw [List.append_assoc, ← List.replicate_succ', digitsValue_append_zeros, digitsValue_natText]
    rfl
  simp only [decimal, large, hv, Decimal.padded, exponentValue, Decimal.mk.injEq, true_and]
  simp

end DecimalText

namespace FloatStyle

variable {n : Nat} {whole : Int} {style : FloatStyle}

open DecimalText

theorem positional_small (hw : whole ≤ 0) :
    positional (natText n) whole = (small n (-whole).toNat).text := by
  simp [positional, hw, DecimalText.text, small, fractionText, DecimalText.exponentText,
    natText_ne_nil]

theorem positional_split {k : Nat} (hn : n ≠ 0) (hk : k + 1 < (natText n).length) :
    positional (natText n) (k + 1) =
      (split n k none hn (by simp) (Or.inl hk)).text := by
  have hd : (natText n).drop (k + 1) ≠ [] := by simp [hk]
  have hm : k + 1 - (natText n).length = 0 := by omega
  have hp : ¬((k : Int) + 1 ≤ 0) := by omega
  have ht : ((k : Int) + 1).toNat = k + 1 := by omega
  simp [positional, DecimalText.text, split, fractionText, DecimalText.exponentText, hd, hm, hp, ht]

theorem positional_large {zeros : Nat} (hn : n ≠ 0) :
    positional (natText n) ((natText n).length + zeros : Nat) = (large n zeros hn).text := by
  have hp := length_natText_pos n
  have hw : ¬(((natText n).length : Int) + zeros ≤ 0) := by omega
  have ht : (((natText n).length : Int) + zeros).toNat = (natText n).length + zeros := by omega
  have htake : (natText n).take ((natText n).length + zeros) = natText n :=
    List.take_of_length_le (by omega)
  simp [htake, positional, DecimalText.text, large, fractionText, DecimalText.exponentText, hw, ht]

/-- Digits of an exponent. -/
def exponentParts (style : FloatStyle) (e : Int) : Bool × List Char :=
  (e < 0, List.replicate (style.exponentWidth - (natText e.natAbs).length) '0' ++ natText e.natAbs)

theorem exponentParts_digits {e : Int} :
    ∀ x ∈ some (style.exponentParts e), x.2 ≠ [] ∧ ∀ c ∈ x.2, c.isDigit := by
  intro x hx
  cases hx
  refine ⟨by simp [exponentParts, natText_ne_nil], ?_⟩
  intro c hc
  exact (List.mem_append.1 hc).elim mem_zeros isDigit_of_mem_natText

theorem exponentValue_parts {e : Int} : exponentValue (some (style.exponentParts e)) = e := by
  have hv := digitsValue_zeros_append (style.exponentWidth - (natText e.natAbs).length)
    (natText e.natAbs)
  rw [digitsValue_natText] at hv
  simp only [exponentParts, exponentValue, hv, decide_eq_true_eq]
  split <;> omega

theorem scientific_eq {e : Int} (hn : n ≠ 0) :
    style.scientific (natText n) e =
      (split n 0 (some (style.exponentParts e)) hn exponentParts_digits (Or.inr nofun)).text := by
  simp only [DecimalText.text, split, DecimalText.exponentText, exponentParts]
  cases hd : natText n with
  | nil => exact absurd hd (natText_ne_nil n)
  | cons d more =>
    cases more with
    | nil => simp [scientific, FloatStyle.exponentText, fractionText]
    | cons d' more => simp [scientific, FloatStyle.exponentText, fractionText]

/-- A decimal is written with its own digits, and zeros behind them when the point stands far
off. -/
theorem decimal_eq {d : Decimal} (hd : d.digits ≠ 0) :
    ∃ t : DecimalText, style.decimal d = t.text ∧ t.whole.length ≤ 16 ∧
      ∃ zeros, t.decimal = d.padded zeros := by
  obtain ⟨n, e⟩ := d
  change n ≠ 0 at hd
  have hp := length_natText_pos n
  unfold decimal
  dsimp only
  split_ifs with h
  · rw [Int.sub_add_cancel]
    by_cases hs : e + (natText n).length ≤ 0
    · refine ⟨_, positional_small hs, by simp [small], 0, ?_⟩
      simp only [Decimal.padded_zero, decimal_small, Decimal.mk.injEq, true_and]
      omega
    by_cases hl : 0 ≤ e
    · obtain ⟨zeros, rfl⟩ := Int.eq_ofNat_of_zero_le hl
      rw [show (zeros : Int) + (natText n).length = ((natText n).length + zeros : Nat) by omega]
      refine ⟨_, positional_large hd, ?_, zeros + 1, decimal_large⟩
      simp only [large, List.length_append, List.length_replicate]
      omega
    · obtain ⟨k, hk⟩ : ∃ k : Nat, e + (natText n).length = k + 1 :=
        ⟨(e + (natText n).length - 1).toNat, by omega⟩
      rw [hk]
      refine ⟨_, positional_split hd (by omega), ?_, 0, ?_⟩
      · simp only [split, List.length_take]
        omega
      · simp only [Decimal.padded_zero, decimal_split, DecimalText.exponentValue,
          Decimal.mk.injEq, true_and]
        omega
  · refine ⟨_, scientific_eq hd, ?_, 0, ?_⟩
    · simp only [split, List.length_take]
      omega
    · simp only [Decimal.padded_zero, decimal_split, exponentValue_parts, Decimal.mk.injEq,
        true_and]
      omega

/-- The text of a finite double is a sign and a number that reads back. -/
theorem text_finite {negative : Bool} {units : Nat} {fits : Representable units} :
    ∃ t : DecimalText,
      style.text (.finite negative units fits) =
        (if negative then ['-'] else []) ++ t.text ∧ t.whole.length ≤ 16 ∧
      Binary64.ofDecimal negative t.decimal.digits t.decimal.exponent =
        .finite negative units fits := by
  unfold text
  dsimp only
  by_cases hu : units = 0
  · subst hu
    have ht : (small 0 0).text = ['0', '.', '0'] := rfl
    refine ⟨small 0 0, by rw [if_pos rfl, ht], by simp [small], ?_⟩
    rw [decimal_small, Binary64.ofDecimal, if_pos rfl]
    rfl
  · have hpos := Nat.pos_of_ne_zero hu
    have hr := shortest_roundsTo hpos fits.1
    obtain ⟨t, ht, hw, zeros, hd⟩ := style.decimal_eq (hr.digits_ne_zero hpos)
    refine ⟨t, by rw [if_neg hu, ht], hw, ?_⟩
    rw [hd]
    exact (hr.padded zeros).ofDecimal_eq hpos fits

end FloatStyle

end TradingSignals
