import TradingSignals.Number.Shortest

namespace TradingSignals

/-- How a double is written: the least exponent of the leading digit that is still written
positionally, the least number of exponent digits, and the texts of the special values. -/
structure FloatStyle where
  plainFrom : Int
  exponentWidth : Nat
  nan : String
  infinity : String
  minusInfinity : String

def natText (n : Nat) : List Char := Nat.toDigits 10 n

def intText (v : Int) : List Char :=
  if v < 0 then '-' :: natText v.natAbs else natText v.natAbs

namespace FloatStyle

/-- A decimal point after the first `whole` digits, with zeros wherever digits are missing. -/
def positional (digits : List Char) (whole : Int) : List Char :=
  if whole ≤ 0 then '0' :: '.' :: (List.replicate (-whole).toNat '0' ++ digits)
  else
    let missing := whole.toNat - digits.length
    let after := digits.drop whole.toNat
    digits.take whole.toNat ++ List.replicate missing '0' ++
      '.' :: if after.isEmpty then ['0'] else after

def exponentText (style : FloatStyle) (e : Int) : List Char :=
  let digits := natText e.natAbs
  'e' :: (if e < 0 then '-' else '+') ::
    (List.replicate (style.exponentWidth - digits.length) '0' ++ digits)

/-- One digit, the others after a point, then the exponent with its sign. -/
def scientific (style : FloatStyle) (digits : List Char) (e : Int) : List Char :=
  match digits with
  | [] => []
  | [d] => d :: style.exponentText e
  | d :: more => d :: '.' :: (more ++ style.exponentText e)

/-- Below `10^16` a number is written positionally, unless it is too small for the style. -/
def decimal (style : FloatStyle) (d : Decimal) : List Char :=
  let digits := natText d.digits
  let e := d.exponent + digits.length - 1
  if style.plainFrom ≤ e ∧ e < 16 then positional digits (e + 1)
  else style.scientific digits e

def text (style : FloatStyle) : Binary64 → List Char
  | .nan => style.nan.toList
  | .infinite false => style.infinity.toList
  | .infinite true => style.minusInfinity.toList
  | .finite negative units _ =>
    (if negative then ['-'] else []) ++
      if units = 0 then ['0', '.', '0'] else style.decimal (shortest units)

end FloatStyle

/-- Doubles in messages, keys and reports. -/
def FloatStyle.report : FloatStyle where
  plainFrom := -4
  exponentWidth := 2
  nan := "nan"
  infinity := "inf"
  minusInfinity := "-inf"

end TradingSignals
