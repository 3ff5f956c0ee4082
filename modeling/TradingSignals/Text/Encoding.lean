import TradingSignals.Text.Utf8

namespace TradingSignals

/-- The code point that a unit of 16 bits stands for on its own. -/
def CodePoint.ofUnit (n : Nat) : CodePoint :=
  if 0xD800 ≤ n ∧ n < 0xE000 then .surrogate n else .char (Char.ofNat n)

/-- Puts a code point before a text; a high surrogate before a low one makes a character. -/
def CodePoint.cons : CodePoint → LooseText → LooseText
  | .surrogate h, .surrogate l :: t =>
    if h < 0xDC00 ∧ 0xDC00 ≤ l then
      .char (Char.ofNat (0x10000 + (h - 0xD800) * 0x400 + (l - 0xDC00))) :: t
    else .surrogate h :: .surrogate l :: t
  | c, t => c :: t

/-- Makes one character of each pair of surrogates. -/
def LooseText.pairUp (t : LooseText) : LooseText := t.foldr CodePoint.cons []

/-- Encodings of a text; the wide ones have the greatest byte of a unit first or last. -/
inductive TextEncoding where
  | utf8
  | utf16 (greatestFirst : Bool)
  | utf32 (greatestFirst : Bool)
  deriving DecidableEq

/-- The number that bytes write, the greatest first. -/
def bytesValue (bytes : List UInt8) : Nat := bytes.foldl (fun n b => 256 * n + b.toNat) 0

/-- Cuts bytes into units of `width + 1`; none when the last one is cut short. -/
def units? (width : Nat) (greatestFirst : Bool) (bytes : List UInt8) : Option (List Nat) :=
  match bytes with
  | [] => some []
  | b :: rest =>
    if rest.length < width then none
    else
      let unit := b :: rest.take width
      (units? width greatestFirst (rest.drop width)).map
        (bytesValue (if greatestFirst then unit else unit.reverse) :: ·)
termination_by bytes.length
decreasing_by simp only [List.length_cons, List.length_drop]; omega

/-- Decodes bytes; unpaired surrogates are let through. -/
def TextEncoding.decode? (encoding : TextEncoding) (bytes : List UInt8) : Option LooseText :=
  match encoding with
  | .utf8 => match decodeUtf8 bytes with
    | .ok s => some (LooseText.ofString s)
    | .error _ => none
  | .utf16 greatestFirst =>
    (units? 1 greatestFirst bytes).map fun units => LooseText.pairUp (units.map .ofUnit)
  | .utf32 greatestFirst => do
    let units ← units? 3 greatestFirst bytes
    if units.all (· < 0x110000) then some (units.map .ofUnit) else none

end TradingSignals
