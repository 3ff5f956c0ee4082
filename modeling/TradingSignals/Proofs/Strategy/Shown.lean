import TradingSignals.Proofs.Json.Numeral
import TradingSignals.Proofs.Strategy.Agreement

namespace TradingSignals

/-- What a number is written with: digits, signs, a point, and the letter before an exponent. -/
def InNumber (c : Char) : Prop := c.isDigit ∨ c ∈ ['-', '+', '.', 'e']

instance (c : Char) : Decidable (InNumber c) :=
  inferInstanceAs (Decidable (c.isDigit ∨ c ∈ ['-', '+', '.', 'e']))

/-- What no whole number is written with. -/
def MarksFraction (cs : List Char) : Prop := '.' ∈ cs ∨ 'e' ∈ cs

section

variable {v w : Int} {c : Char}

theorem natText_injective : Function.Injective natText :=
  Function.LeftInverse.injective digitsValue_natText

theorem mem_intText (h : c ∈ intText v) : c = '-' ∨ c.isDigit := by
  unfold intText at h
  split at h
  · exact (List.mem_cons.1 h).imp_right isDigit_of_mem_natText
  · exact Or.inr (isDigit_of_mem_natText h)

theorem intText_not_marksFraction : ¬MarksFraction (intText v) := by
  rintro (h | h) <;> exact absurd (mem_intText h) (by decide)

theorem minus_not_mem_natText {n : Nat} : '-' ∉ natText n := fun h =>
  absurd (isDigit_of_mem_natText h) (by decide)

theorem intText_injective : Function.Injective intText := by
  intro v w h
  unfold intText at h
  split at h
  · next hv =>
    split at h
    · next hw =>
      have hn : v.natAbs = w.natAbs := natText_injective (List.cons.inj h).2
      omega
    · exact absurd (h ▸ List.mem_cons_self) minus_not_mem_natText
  · next hv =>
    split at h
    · exact absurd (h.symm ▸ List.mem_cons_self) minus_not_mem_natText
    · next hw =>
      have hn : v.natAbs = w.natAbs := natText_injective h
      omega

end

namespace DecimalText

variable {t : DecimalText} {c : Char}

theorem inNumber_of_mem_text (h : c ∈ t.text) : InNumber c := by
  rcases List.mem_append.1 h with h | h
  · exact Or.inl (t.whole_digits c h)
  rcases List.mem_append.1 h with h | h
  · unfold fractionText at h
    split at h
    · cases h
    · rcases List.mem_cons.1 h with rfl | h
      · exact Or.inr (by decide)
      · exact Or.inl (t.fraction_digits c h)
  · cases he : t.exponent with
    | none =>
      rw [he] at h
      cases h
    | some x =>
      obtain ⟨negative, ds⟩ := x
      rw [he, exponentText] at h
      rcases List.mem_cons.1 h with rfl | h
      · exact Or.inr (by decide)
      rcases List.mem_cons.1 h with rfl | h
      · cases negative <;> exact Or.inr (by decide)
      · exact Or.inl ((t.exponent_digits _ he).2 c h)

theorem text_marksFraction : MarksFraction t.text := by
  rcases t.not_whole with h | h
  · left
    apply List.mem_append_right
    apply List.mem_append_left
    rw [fractionText, if_neg h]
    exact List.mem_cons_self
  · right
    apply List.mem_append_right
    apply List.mem_append_right
    obtain ⟨x, hx⟩ := Option.ne_none_iff_exists'.1 h
    rw [hx]
    exact List.mem_cons_self

end DecimalText

namespace FloatStyle

variable {x y : Binary64}

theorem inNumber_of_mem_text (style : FloatStyle) (hx : x.isFinite) {c : Char}
    (h : c ∈ style.text x) : InNumber c := by
  cases x with
  | nan => cases hx
  | infinite negative => cases hx
  | finite negative units fits =>
    obtain ⟨t, ht, -⟩ := style.text_finite
    rw [ht] at h
    rcases List.mem_append.1 h with h | h
    · right
      cases negative <;> simp_all
    · exact t.inNumber_of_mem_text h

theorem text_marksFraction (style : FloatStyle) (hx : x.isFinite) :
    MarksFraction (style.text x) := by
  cases x with
  | nan => cases hx
  | infinite negative => cases hx
  | finite negative units fits =>
    obtain ⟨t, ht, -⟩ := style.text_finite
    rw [ht]
    exact t.text_marksFraction.imp (List.mem_append_right _) (List.mem_append_right _)

/-- What is written can be read back, so two doubles are not written alike. -/
theorem eq_of_text (style : FloatStyle) (hx : x.isFinite) (hy : y.isFinite)
    (h : style.text x = style.text y) : x = y := by
  have hr := JsonReader.atom_float (g := .strict) style hx endsNumber_nil
  rw [h, JsonReader.atom_float style hy endsNumber_nil] at hr
  cases hr
  rfl

end FloatStyle

theorem Binary64.place_of_toInt? {x : Binary64} {v : Int} (h : x.toInt? = some v) :
    x.place = .point (v * one) := by
  cases x with
  | nan => cases h
  | infinite negative => cases h
  | finite negative units fits =>
    obtain ⟨hm, hv⟩ := Option.ite_none_right_eq_some.1 h
    have hu : ((units / one : Nat) : Int) * one = units := by
      rw [← Int.natCast_mul, Nat.div_mul_cancel (Nat.dvd_of_mod_eq_zero hm)]
    rw [place, Place.point.injEq, ← Option.some.inj hv]
    cases negative with
    | true => rw [if_pos rfl, if_pos rfl, Int.neg_mul, hu]
    | false => rw [if_neg Bool.false_ne_true, if_neg Bool.false_ne_true, hu]

namespace Number

def isFinite : Number → Bool
  | .int _ => true
  | .float x => x.isFinite

variable {m n : Number}

theorem place_ne_nowhere (h : m.isFinite) : m.place ≠ .nowhere := by
  cases m with
  | int v => exact nofun
  | float x =>
    intro hp
    rw [Binary64.place_eq_nowhere_iff.1 hp] at h
    cases h

/-- A whole number is shown by its digits alone, another one by a text that reads back. -/
theorem shown_cases (h : m.isFinite) :
    (∃ v, m.place = (int v).place ∧ m.shown = String.ofList (intText v)) ∨
      ∃ x, m = .float x ∧ x.isFinite ∧ m.shown = String.ofList (FloatStyle.report.text x) := by
  cases m with
  | int v => exact Or.inl ⟨v, rfl, rfl⟩
  | float x =>
    cases hv : x.toInt? with
    | some v =>
      have hp := Binary64.place_of_toInt? hv
      exact Or.inl ⟨v, hp, Binary64.shown_of_place hp⟩
    | none =>
      refine Or.inr ⟨x, rfl, h, ?_⟩
      rw [shown, Binary64.shown, hv]

/-- Different numbers are never shown alike. -/
theorem place_eq_of_shown (hm : m.isFinite) (hn : n.isFinite) (h : m.shown = n.shown) :
    m.place = n.place := by
  rcases shown_cases hm with ⟨v, hv, hs⟩ | ⟨x, rfl, hx, hs⟩
  · rcases shown_cases hn with ⟨w, hw, ht⟩ | ⟨y, rfl, hy, ht⟩
    · have hvw : v = w := intText_injective (String.ofList_injective (hs.symm.trans (h.trans ht)))
      rw [hv, hw, hvw]
    · have hi : intText v = FloatStyle.report.text y :=
        String.ofList_injective (hs.symm.trans (h.trans ht))
      exact absurd (hi ▸ FloatStyle.report.text_marksFraction hy) intText_not_marksFraction
  · rcases shown_cases hn with ⟨w, hw, ht⟩ | ⟨y, rfl, hy, ht⟩
    · have hi : FloatStyle.report.text x = intText w :=
        String.ofList_injective (hs.symm.trans (h.trans ht))
      exact absurd (hi ▸ FloatStyle.report.text_marksFraction hx) intText_not_marksFraction
    · have hxy : x = y := FloatStyle.report.eq_of_text hx hy
        (String.ofList_injective (hs.symm.trans (h.trans ht)))
      rw [hxy]

theorem inNumber_of_mem_shown (h : m.isFinite) {c : Char} (hc : c ∈ m.shown.toList) :
    InNumber c := by
  rcases shown_cases h with ⟨v, -, hs⟩ | ⟨x, -, hx, hs⟩
  · rw [hs, String.toList_ofList] at hc
    rcases mem_intText hc with rfl | hd
    · exact Or.inr (by decide)
    · exact Or.inl hd
  · rw [hs, String.toList_ofList] at hc
    exact FloatStyle.report.inNumber_of_mem_text hx hc

end Number

namespace Scalar

/-- Whether a scalar is a whole number or a finite double. -/
def isFiniteNumber (x : Scalar) : Bool := x.number?.any Number.isFinite

variable {x y : Scalar}

theorem isFiniteNumber_iff : x.isFiniteNumber ↔ ∃ m, x.number? = some m ∧ m.isFinite :=
  Option.any_eq_true ..

theorem same_iff_of_number {m n : Number} (hm : x.number? = some m) (hn : y.number? = some n) :
    x.same y ↔ m.place.same n.place := by
  cases x <;> cases hm <;> cases y <;> cases hn <;> rfl

/-- Finite numbers are shown alike exactly when they are equal. -/
theorem shown_eq_iff (hx : x.isFiniteNumber) (hy : y.isFiniteNumber) :
    x.shown = y.shown ↔ x.same y := by
  constructor
  · intro h
    obtain ⟨m, hm, hmf⟩ := isFiniteNumber_iff.1 hx
    obtain ⟨n, hn, hnf⟩ := isFiniteNumber_iff.1 hy
    rw [shown_of_number hm, shown_of_number hn] at h
    rw [same_iff_of_number hm hn, Place.same_iff]
    exact ⟨Number.place_eq_of_shown hmf hnf h, Number.place_ne_nowhere hmf⟩
  · exact shown_eq_of_same

theorem inNumber_of_mem_shown (hx : x.isFiniteNumber) {c : Char} (hc : c ∈ x.shown.toList) :
    InNumber c := by
  obtain ⟨m, hm, hf⟩ := isFiniteNumber_iff.1 hx
  rw [shown_of_number hm] at hc
  exact Number.inNumber_of_mem_shown hf hc

end Scalar

end TradingSignals
