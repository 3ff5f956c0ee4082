namespace TradingSignals

/-- The first power of two past the doubles, in units of `2^-1074`. -/
def Binary64.bound : Nat := Nat.pow 2 2098

/-- One, in units. -/
def Binary64.one : Nat := Nat.pow 2 1074

/-- At most 53 significant bits and below `2^1024`, counted in units of `2^-1074`. -/
def Representable (units : Nat) : Prop :=
  units < Binary64.bound ∧ Nat.pow 2 (units.log2 - 52) ∣ units

instance (units : Nat) : Decidable (Representable units) :=
  inferInstanceAs (Decidable (_ ∧ _))

/-- A double. A finite one is a whole number of units of `2^-1074`, so that values are
compared and added up exactly; zero keeps its sign. -/
inductive Binary64 where
  | nan
  | infinite (negative : Bool)
  | finite (negative : Bool) (units : Nat) (fits : Representable units)
  deriving DecidableEq

/-- Quotient to the nearest whole number; a half goes to the even neighbour. -/
def roundDiv (num den : Nat) : Nat :=
  let q := num / den
  let r := num % den
  if 2 * r < den ∨ (2 * r = den ∧ q % 2 = 0) then q else q + 1

/-- Spacing of the doubles from `units` upward to the next power of two. -/
def gridAt (units : Nat) : Nat := Nat.pow 2 (units.log2 - 52)

/-- `num / den` units, rounded onto the grid of 53 significant bits. -/
def roundUnits (num den : Nat) : Nat :=
  roundDiv num (den * gridAt (num / den)) * gridAt (num / den)

theorem roundDiv_le (num den : Nat) : roundDiv num den ≤ num / den + 1 := by
  unfold roundDiv
  dsimp only
  split <;> omega

theorem dvd_of_le_two_pow {k s : Nat} (h : k ≤ Nat.pow 2 53) :
    Nat.pow 2 ((k * Nat.pow 2 s).log2 - 52) ∣ k * Nat.pow 2 s := by
  change k ≤ 2^53 at h
  change 2^((k * 2^s).log2 - 52) ∣ k * 2^s
  rcases Nat.eq_zero_or_pos k with rfl | hk
  · simp
  rcases Nat.lt_or_eq_of_le h with hlt | rfl
  · have hne : k * 2^s ≠ 0 := Nat.mul_ne_zero (by omega) (Nat.ne_of_gt (Nat.two_pow_pos s))
    have hb : (k * 2^s).log2 < 53 + s := by
      rw [Nat.log2_lt hne, Nat.pow_add]
      exact Nat.mul_lt_mul_of_pos_right hlt (Nat.pow_pos (by decide))
    exact Nat.dvd_trans (Nat.pow_dvd_pow 2 (by omega)) (Nat.dvd_mul_left ..)
  · rw [← Nat.pow_add, Nat.log2_two_pow]
    exact Nat.pow_dvd_pow 2 (by omega)

theorem roundUnits_dvd (num den : Nat) :
    Nat.pow 2 ((roundUnits num den).log2 - 52) ∣ roundUnits num den := by
  unfold roundUnits gridAt
  apply dvd_of_le_two_pow
  refine Nat.le_trans (roundDiv_le ..) ?_
  rw [← Nat.div_div_eq_div_mul]
  generalize num / den = q
  change q / 2^(q.log2 - 52) + 1 ≤ 2^53
  have hq : q / 2^(q.log2 - 52) < 2^53 := by
    rw [Nat.div_lt_iff_lt_mul (Nat.pow_pos (by decide)), ← Nat.pow_add]
    exact Nat.lt_of_lt_of_le Nat.lt_log2_self (Nat.pow_le_pow_right (by decide) (by omega))
  omega

namespace Binary64

/-- `num / den` units with a sign, rounded; past the greatest double it is infinite. -/
def ofRatio (negative : Bool) (num den : Nat) : Binary64 :=
  if h : roundUnits num den < bound then
    .finite negative (roundUnits num den) ⟨h, roundUnits_dvd num den⟩
  else .infinite negative

theorem bound_pos : 0 < bound := by
  unfold bound
  generalize 2098 = n
  exact Nat.two_pow_pos n

def zero (negative : Bool) : Binary64 :=
  .finite negative 0 ⟨bound_pos, Nat.dvd_zero _⟩

def ofInt (v : Int) : Binary64 := ofRatio (v < 0) (v.natAbs * one) 1

/-- `digits * 10^exponent`. Exponents that decide the answer alone are not expanded. -/
def ofDecimal (negative : Bool) (digits : Nat) (exponent : Int) : Binary64 :=
  if digits = 0 then zero negative
  else if 400 ≤ exponent then .infinite negative
  else if exponent + digits.log2 + 400 ≤ 0 then zero negative
  else if 0 ≤ exponent then ofRatio negative (digits * Nat.pow 10 exponent.toNat * one) 1
  else ofRatio negative (digits * one) (Nat.pow 10 (-exponent).toNat)

def isFinite : Binary64 → Bool
  | .finite .. => true
  | _ => false

/-- The whole number that a double is, when it is one. -/
def toInt? : Binary64 → Option Int
  | .finite negative units _ =>
    if units % one = 0 then some (if negative then -(units / one : Nat) else (units / one : Nat))
    else none
  | _ => none

end Binary64

/-- Where a number lies on the line, in units of `2^-1074`; not-a-number lies nowhere. -/
inductive Place where
  | nowhere
  | bottom
  | point (units : Int)
  | top
  deriving DecidableEq

namespace Place

def lt : Place → Place → Bool
  | .bottom, .point _ => true
  | .bottom, .top => true
  | .point _, .top => true
  | .point x, .point y => x < y
  | _, _ => false

/-- Equal as numbers; nothing equals not-a-number, itself included. -/
def same : Place → Place → Bool
  | .bottom, .bottom => true
  | .top, .top => true
  | .point x, .point y => x == y
  | _, _ => false

end Place

def Binary64.place : Binary64 → Place
  | .nan => .nowhere
  | .infinite true => .bottom
  | .infinite false => .top
  | .finite negative units _ => .point (if negative then -units else units)

/-- The same double; one that is no number is not the same as itself. -/
def Binary64.same (x y : Binary64) : Bool := x.place.same y.place

/-- A number as it was declared or written: whole numbers of any size stay exact. -/
inductive Number where
  | int (v : Int)
  | float (x : Binary64)
  deriving DecidableEq

def Number.place : Number → Place
  | .int v => .point (v * Binary64.one)
  | .float x => x.place

/-- Nearest double; a whole number past the greatest double becomes infinite. -/
def Number.toBinary64 : Number → Binary64
  | .int v => .ofInt v
  | .float x => x

end TradingSignals
