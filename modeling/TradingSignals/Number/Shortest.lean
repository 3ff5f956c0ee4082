import TradingSignals.Number.Binary64

namespace TradingSignals

/-- `digits * 10^exponent`. -/
structure Decimal where
  digits : Nat
  exponent : Int
  deriving DecidableEq

/-- A positive double over a decimal grid: the value is `num / den` grid steps, and the reals
that round to it reach from `low / (4 * den)` to `high / (4 * den)` steps. The ends belong to
them when the significand is even. -/
structure OnGrid where
  num : Nat
  den : Nat
  low : Nat
  high : Nat
  closed : Bool

/-- The double `units` over the grid of `10^step`. Just above a power of two the gap below is
half the gap above. -/
def OnGrid.of (units : Nat) (step : Int) : OnGrid :=
  let gap := gridAt units
  let scale := Nat.pow 10 (-step).toNat
  let narrow : Bool := 52 < units.log2 ∧ units = Nat.pow 2 units.log2
  { num := units * scale
    den := Nat.pow 10 step.toNat * Binary64.one
    low := (4 * units - if narrow then gap else 2 * gap) * scale
    high := (4 * units + 2 * gap) * scale
    closed := units / gap % 2 = 0 }

/-- Whether `n` grid steps round to the double. -/
def OnGrid.readsBack (g : OnGrid) (n : Nat) : Bool :=
  let v := 4 * n * g.den
  (g.low < v || g.closed && g.low == v) && (v < g.high || g.closed && v == g.high)

/-- The grid point that reads back; of two the nearer, of two equally near the even one. -/
def OnGrid.point? (g : OnGrid) : Option Nat :=
  let n := g.num / g.den
  match g.readsBack n, g.readsBack (n + 1) with
  | true, true => some (roundDiv g.num g.den)
  | true, false => some n
  | false, true => some (n + 1)
  | false, false => none

/-- The least `k` with `units < 10^k`: the binary logarithm leaves three candidates. -/
def decimalScale (units : Nat) : Int :=
  let low : Int := ((units.log2 : Int) - 1074) * 30103 / 100000
  let below (k : Int) : Bool := units * Nat.pow 10 (-k).toNat < Nat.pow 10 k.toNat * Binary64.one
  if below low then low else if below (low + 1) then low + 1 else low + 2

/-- Moves trailing zeros of the digits into the exponent. -/
def Decimal.trim (fuel : Nat) (d : Decimal) : Decimal :=
  match fuel with
  | 0 => d
  | fuel + 1 =>
    if d.digits ≠ 0 ∧ d.digits % 10 = 0 then trim fuel ⟨d.digits / 10, d.exponent + 1⟩ else d

/-- The decimal with the fewest digits that rounds to the double, found by trying one digit
more at a time; seventeen always suffice. -/
def shortestFrom (units : Nat) (scale : Int) : (more digits : Nat) → Decimal
  | 0, digits =>
    let g := OnGrid.of units (scale - digits)
    ⟨roundDiv g.num g.den, scale - digits⟩
  | more + 1, digits =>
    ((OnGrid.of units (scale - digits)).point?.map (⟨·, scale - digits⟩)).getD
      (shortestFrom units scale more (digits + 1))

def shortest (units : Nat) : Decimal :=
  (shortestFrom units (decimalScale units) 16 1).trim 17

end TradingSignals
