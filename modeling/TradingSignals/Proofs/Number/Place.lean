import TradingSignals.Proofs.Number.Conversion

namespace TradingSignals

theorem Place.eq_of_same {p q : Place} (h : p.same q) : p = q := by
  cases p with
  | point x =>
    cases q with
    | point y => exact congrArg point (beq_iff_eq.1 h)
    | _ => cases h
  | _ => cases q <;> cases h <;> rfl

theorem Place.same_iff {p q : Place} : p.same q ↔ p = q ∧ p ≠ .nowhere := by
  constructor
  · intro h
    refine ⟨eq_of_same h, ?_⟩
    rintro rfl
    cases q <;> cases h
  · rintro ⟨rfl, hp⟩
    cases p with
    | nowhere => exact absurd rfl hp
    | point x => exact beq_self_eq_true x
    | _ => rfl

/-- At most as far up the line; what lies nowhere is not comparable. -/
def Place.atMost (p q : Place) : Bool := p.lt q || p.same q

theorem Place.atMost_of_not_lt {p q : Place} (h : ¬q.lt p) (hp : p ≠ .nowhere)
    (hq : q ≠ .nowhere) : p.atMost q := by
  cases p with
  | nowhere => exact absurd rfl hp
  | bottom => cases q <;> simp_all [atMost, lt, same]
  | top => cases q <;> simp_all [atMost, lt, same]
  | point x =>
    cases q with
    | point y =>
      simp only [atMost, lt, same, Bool.or_eq_true, decide_eq_true_eq, beq_iff_eq] at h ⊢
      omega
    | _ => simp_all [atMost, lt, same]

/-- What lies on the grid is its own rounding. -/
theorem roundUnits_self {units : Nat} (h : gridAt units ∣ units) : roundUnits units 1 = units := by
  have hm : units % gridAt units = 0 := Nat.mod_eq_zero_of_dvd h
  have hd : roundDiv units (gridAt units) = units / gridAt units := by
    apply roundDiv_eq_div
    rw [hm]
    exact gridAt_pos units
  rw [roundUnits_one, hd, Nat.div_mul_cancel h]

namespace Binary64

variable {x y : Binary64}

theorem ofRatio_self {negative : Bool} {units : Nat} (h : Representable units) :
    ofRatio negative units 1 = .finite negative units h := by
  have hr : roundUnits units 1 = units := roundUnits_self h.2
  unfold ofRatio
  rw [dif_pos (hr.symm ▸ h.1)]
  simp only [hr]

theorem natAbs_signed {negative : Bool} {units : Nat} :
    (if negative then -(units : Int) else units).natAbs = units := by
  split
  · rw [Int.natAbs_neg, Int.natAbs_natCast]
  · rw [Int.natAbs_natCast]

theorem exists_finite_of_place {k : Int} (h : x.place = .point k) :
    ∃ negative units fits, x = .finite negative units fits ∧ units = k.natAbs := by
  cases x with
  | nan => cases h
  | infinite negative => cases negative <;> cases h
  | finite negative units fits =>
    rw [place, Place.point.injEq] at h
    refine ⟨negative, units, fits, rfl, ?_⟩
    rw [← h, natAbs_signed]

/-- A sign and a magnitude make up the number they are taken from. -/
theorem signed_natAbs_mul (v k : Int) :
    (if decide (v < 0) then -((v.natAbs : Int) * k) else v.natAbs * k) = v * k := by
  by_cases hv : v < 0
  · rw [decide_eq_true hv, if_pos rfl, Int.ofNat_natAbs_of_nonpos (Int.le_of_lt hv), Int.neg_mul,
      Int.neg_neg]
  · rw [decide_eq_false hv, if_neg Bool.false_ne_true, Int.natAbs_of_nonneg (Int.not_lt.1 hv)]

/-- A whole number that is equal to some double is converted exactly. -/
theorem ofInt_of_place {v : Int} (h : x.place = .point (v * one)) :
    (ofInt v).isFinite ∧ (ofInt v).place = .point (v * one) := by
  obtain ⟨negative, units, fits, -, hu⟩ := exists_finite_of_place h
  rw [Int.natAbs_mul, Int.natAbs_natCast] at hu
  rw [ofInt, ← hu, ofRatio_self fits]
  refine ⟨rfl, ?_⟩
  rw [place, hu, Place.point.injEq, Int.natCast_mul]
  exact signed_natAbs_mul v one

theorem place_eq_nowhere_iff : x.place = .nowhere ↔ x = .nan := by
  cases x with
  | nan => exact iff_of_true rfl rfl
  | infinite negative => cases negative <;> simp [place]
  | finite negative units fits => simp [place]

theorem place_eq_infinite_iff {negative : Bool} :
    x.place = (infinite negative).place ↔ x = .infinite negative := by
  cases x with
  | nan => cases negative <;> simp [place]
  | infinite other => cases other <;> cases negative <;> simp [place]
  | finite other units fits => cases negative <;> simp [place]

/-- Only the two zeros lie at the same place. -/
theorem eq_or_zero_of_place (h : x.place = y.place) : x = y ∨ x.place = .point 0 := by
  cases y with
  | nan => exact Or.inl (place_eq_nowhere_iff.1 h)
  | infinite negative => exact Or.inl (place_eq_infinite_iff.1 h)
  | finite negative units fits =>
    obtain ⟨negative', units', fits', rfl, hu⟩ := exists_finite_of_place h
    obtain rfl : units' = units := hu.trans natAbs_signed
    by_cases hn : negative' = negative
    · exact Or.inl (hn ▸ rfl)
    · right
      rw [place, place, Place.point.injEq] at h
      rw [place, Place.point.injEq]
      cases negative <;> cases negative' <;>
        simp only [if_true, if_false, Bool.false_eq_true, not_true_eq_false] at h hn ⊢ <;> omega

theorem toInt?_of_place {v : Int} (h : x.place = .point (v * one)) : x.toInt? = some v := by
  obtain ⟨negative, units, fits, rfl, hu⟩ := exists_finite_of_place h
  rw [Int.natAbs_mul, Int.natAbs_natCast] at hu
  have hp : (one : Int) ≠ 0 := Int.natCast_ne_zero.2 (Nat.ne_of_gt one_pos)
  have hm : units % one = 0 := by rw [hu, Nat.mul_mod_left]
  have hq : units / one = v.natAbs := by rw [hu, Nat.mul_div_cancel _ one_pos]
  rw [place, Place.point.injEq, hu, Int.natCast_mul] at h
  rw [toInt?, if_pos hm, hq, Option.some.injEq]
  cases negative with
  | true =>
    rw [if_pos rfl, ← Int.neg_mul] at h
    rw [if_pos rfl]
    exact Int.eq_of_mul_eq_mul_right hp h
  | false =>
    rw [if_neg Bool.false_ne_true] at h
    rw [if_neg Bool.false_ne_true]
    exact Int.eq_of_mul_eq_mul_right hp h

theorem shown_of_place {v : Int} (h : x.place = .point (v * one)) :
    x.shown = String.ofList (intText v) := by
  rw [shown, toInt?_of_place h]

/-- No whole number of at most 53 bits is rounded. -/
theorem representable_whole {k : Nat} (h : k ≤ Nat.pow 2 53) : Representable (k * one) := by
  -- the exponents stay behind names, or the powers are computed
  obtain ⟨e, he⟩ : ∃ e, 1074 = e := ⟨_, rfl⟩
  obtain ⟨b, hb⟩ : ∃ b, 2098 = b := ⟨_, rfl⟩
  rw [Representable, one_eq he, bound_eq hb]
  refine ⟨?_, dvd_of_le_two_pow h⟩
  calc k * Nat.pow 2 e
      ≤ Nat.pow 2 53 * Nat.pow 2 e := Nat.mul_le_mul_right _ h
    _ = Nat.pow 2 (e + 53) := (two_pow_add e 53).symm
    _ < Nat.pow 2 b := Nat.pow_lt_pow_right (by decide) (by omega)

/-- A double is shown as what it is equal to. -/
theorem shown_eq_of_place (h : x.place = y.place) : x.shown = y.shown := by
  rcases eq_or_zero_of_place h with rfl | hx
  · rfl
  · have hx : x.place = .point (0 * one) := hx.trans (by rw [Int.zero_mul])
    rw [shown_of_place hx, shown_of_place (h ▸ hx)]

end Binary64

namespace Number

/-- At most as great, as exact numbers; not-a-number is not comparable. -/
def atMost (m n : Number) : Bool := m.place.atMost n.place

def isNan (n : Number) : Bool := n.place = .nowhere

/-- A number that is equal to some double. -/
def Exact (n : Number) : Prop := ∃ x : Binary64, x.place = n.place

theorem exact_int_of_le {v : Int} (h : v.natAbs ≤ Nat.pow 2 53) : (int v).Exact := by
  refine ⟨.finite (v < 0) (v.natAbs * Binary64.one) (Binary64.representable_whole h), ?_⟩
  rw [Binary64.place, place, Place.point.injEq, Int.natCast_mul]
  exact Binary64.signed_natAbs_mul v Binary64.one

/-- The nearest double of such a number is the number. -/
theorem Exact.place_eq {n : Number} (h : n.Exact) : n.toBinary64.place = n.place := by
  obtain ⟨x, hx⟩ := h
  cases n with
  | int v => exact (Binary64.ofInt_of_place hx).2
  | float y => rfl

end Number

end TradingSignals
