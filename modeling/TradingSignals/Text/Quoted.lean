import TradingSignals.Text.Printable

namespace TradingSignals

/-- What an escape can name: a character, or one half of a surrogate pair alone. -/
inductive CodePoint where
  | char (c : Char)
  | surrogate (n : Nat)
  deriving DecidableEq

/-- A text that may hold unpaired surrogates. -/
abbrev LooseText := List CodePoint

def LooseText.ofString (s : String) : LooseText := s.toList.map CodePoint.char

/-- The replacement character stands for an unpaired surrogate. -/
def CodePoint.lossy : CodePoint → Char
  | .char c => c
  | .surrogate _ => '\uFFFD'

def LooseText.lossy (t : LooseText) : String := String.ofList (t.map CodePoint.lossy)

def CodePoint.char? : CodePoint → Option Char
  | .char c => some c
  | .surrogate _ => none

/-- The text as a string, when it holds no unpaired surrogate. -/
def LooseText.toString? (t : LooseText) : Option String :=
  (t.mapM CodePoint.char?).map String.ofList

/-- Hexadecimal digits, padded with zeros. -/
def hexText (width n : Nat) : List Char :=
  let digits := Nat.toDigits 16 n
  List.replicate (width - digits.length) '0' ++ digits

/-- The shortest of the three numeric escapes that holds the code point. -/
def hexEscape (n : Nat) : List Char :=
  if n < 0x100 then '\\' :: 'x' :: hexText 2 n
  else if n < 0x10000 then '\\' :: 'u' :: hexText 4 n
  else '\\' :: 'U' :: hexText 8 n

def CodePoint.quoted (quote : Char) : CodePoint → List Char
  | .surrogate n => hexEscape n
  | .char c =>
    if c = quote ∨ c = '\\' then ['\\', c]
    else if c = '\n' then ['\\', 'n']
    else if c = '\r' then ['\\', 'r']
    else if c = '\t' then ['\\', 't']
    else if isPrintable c then [c]
    else hexEscape c.toNat

/-- Double quotes are used only around a text with single quotes and no double ones. -/
def LooseText.quoteMark (t : LooseText) : Char :=
  if CodePoint.char '\'' ∈ t ∧ CodePoint.char '"' ∉ t then '"' else '\''

/-- The text in quotes, all of it visible. -/
def LooseText.quoted (t : LooseText) : List Char :=
  t.quoteMark :: (t.flatMap (·.quoted t.quoteMark) ++ [t.quoteMark])

def quoted (s : String) : String := String.ofList (LooseText.ofString s).quoted

end TradingSignals
