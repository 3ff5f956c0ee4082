import TradingSignals.Number.FloatText
import TradingSignals.Text.Character

namespace TradingSignals

/-- The most digits that a whole number read from text may have. -/
def maxDigits : Nat := 4300

def digitsValue (ds : List Char) : Nat :=
  ds.foldl (fun n d => 10 * n + (d.toNat - '0'.toNat)) 0

/-- A sign and what follows it; true is minus. -/
def takeSign : List Char → Bool × List Char
  | '-' :: cs => (true, cs)
  | '+' :: cs => (false, cs)
  | cs => (false, cs)

def startsWithDigit (cs : List Char) : Bool := cs.head?.any Char.isDigit

/-- Takes a decimal exponent, zero when there is none; refuses an `e` without digits. -/
def takeExponent : List Char → Option (Int × List Char)
  | [] => some (0, [])
  | c :: cs =>
    if c = 'e' ∨ c = 'E' then
      let (negative, ds) := takeSign cs
      let n : Int := digitsValue (ds.takeWhile Char.isDigit)
      if startsWithDigit ds then some (if negative then -n else n, ds.dropWhile Char.isDigit)
      else none
    else some (0, c :: cs)

/-- The digits after a decimal point, and the rest. -/
def takeFraction : List Char → List Char × List Char
  | '.' :: cs => (cs.takeWhile Char.isDigit, cs.dropWhile Char.isDigit)
  | cs => ([], cs)

/-- The double that digits with a point and an exponent name; a digit stands before or after
the point. -/
def readDecimal? (negative : Bool) (cs : List Char) : Option Binary64 :=
  let whole := cs.takeWhile Char.isDigit
  let (fraction, rest) := takeFraction (cs.dropWhile Char.isDigit)
  match takeExponent rest with
  | some (e, []) =>
    if whole.isEmpty && fraction.isEmpty then none
    else some (.ofDecimal negative (digitsValue (whole ++ fraction)) (e - fraction.length))
  | _ => none

/-- A double without blanks and underscores: a sign, and digits or the name of a special value in
any case. -/
def readPlainFloat? (cs : List Char) : Option Binary64 :=
  let (negative, body) := takeSign cs
  let word := String.ofList (body.map Char.toLower)
  if word = "inf" ∨ word = "infinity" then some (.infinite negative)
  else if word = "nan" then some .nan
  else readDecimal? negative body

/-- Drops single underscores between digits and refuses all others. -/
def ungroup (afterDigit : Bool) : List Char → Option (List Char)
  | [] => some []
  | c :: cs =>
    if c = '_' then
      if afterDigit && startsWithDigit cs then ungroup false cs else none
    else (ungroup c.isDigit cs).map (c :: ·)

/-- A double written by hand: blanks around it, digits of any script, in groups. -/
def readFloatAnyScript? (cs : List Char) : Option Binary64 :=
  (ungroup false (trimBlanks (cs.map fun c => (digitValue? c).elim c Nat.digitChar))).bind
    readPlainFloat?

/-- Whether two underscores stand side by side. -/
def doublesUnderscore : List Char → Bool
  | '_' :: '_' :: _ => true
  | _ :: cs => doublesUnderscore cs
  | [] => false

/-- Drops all underscores, wherever they stand inside; none when one stands at an end or two
side by side. -/
def dropUnderscores? (cs : List Char) : Option (List Char) :=
  if cs.head? = some '_' ∨ cs.getLast? = some '_' ∨ doublesUnderscore cs then none
  else some (cs.filter (· ≠ '_'))

/-- A double in a text field. Blanks around it are let through, or underscores inside it, but not
both. -/
def readFloat? (cs : List Char) : Option Binary64 :=
  readPlainFloat? (trimBlanks cs) <|> (dropUnderscores? cs).bind readPlainFloat?

/-- What a text means as a whole number. -/
inductive IntegerText where
  | value (v : Int)
  | tooLong
  | unreadable
  deriving DecidableEq

/-- A whole number as it is written in JSON. The length is looked at before the end of it, and a
minus sign counts. -/
def readPlainInteger (cs : List Char) : IntegerText :=
  let (negative, body) := match cs with
    | '-' :: body => (true, body)
    | _ => (false, cs)
  let digits := body.takeWhile Char.isDigit
  if digits.isEmpty || (digits.head? == some '0' && digits.length != 1) then .unreadable
  else if maxDigits < negative.toNat + digits.length then .tooLong
  else if digits.length < body.length then .unreadable
  else .value (if negative then -(digitsValue digits : Int) else digitsValue digits)

/-- Goes past zeros and underscores. A digit or a minus sign begins the number; before a point
the character ahead of it is kept, and so is the last one of all. -/
def pastZeros (last : Char) : List Char → Option (List Char)
  | [] => some [last]
  | c :: cs =>
    if c = '0' ∨ c = '_' then pastZeros c cs
    else if c = '.' then some (last :: c :: cs)
    else if c.isDigit ∨ c = '-' then some (c :: cs)
    else none

/-- Drops the zeros a number starts with; none when it starts with no digit and no minus sign. -/
def dropZeros? : List Char → Option (List Char)
  | [] => none
  | c :: cs =>
    if c = '0' then pastZeros c cs
    else if c.isDigit ∨ c = '-' then some (c :: cs)
    else none

/-- Drops a point with nothing but zeros behind it, at least one. -/
def dropZeroFraction (cs : List Char) : List Char :=
  let zeros := (cs.dropWhile (· ≠ '.')).drop 1
  if !zeros.isEmpty && zeros.all (· == '0') then cs.takeWhile (· ≠ '.') else cs

/-- The plain form of a whole number: without the blanks and the plus sign before it, the zeros
at both ends, and underscores. -/
def cleanInteger? (cs : List Char) : Option (List Char) := do
  let body ← match trimBlanks cs with
    | '+' :: '-' :: _ => none
    | '+' :: body => some body
    | body => some body
  let number := dropZeroFraction (← dropZeros? body)
  return (dropUnderscores? number).getD number

/-- A whole number in a text field. Only one that is too long as it stands is called so. -/
def readInteger (cs : List Char) : IntegerText :=
  match readPlainInteger cs with
  | .unreadable => match (cleanInteger? cs).map readPlainInteger with
    | some (.value v) => .value v
    | _ => .unreadable
  | result => result

end TradingSignals
