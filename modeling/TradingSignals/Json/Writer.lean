import TradingSignals.Json.Value
import TradingSignals.Number.FloatText

namespace TradingSignals

/-- How a JSON text is laid out. With an indent every item stands on a line of its own, behind
`indent` spaces a level. -/
structure JsonStyle where
  indent : Option Nat
  itemMark : String
  keyMark : String
  asciiOnly : Bool
  float : FloatStyle

namespace JsonStyle

def shortFloat : FloatStyle where
  plainFrom := -5
  exponentWidth := 1
  nan := "null"
  infinity := "null"
  minusInfinity := "null"

def reportFloat : FloatStyle :=
  { FloatStyle.report with nan := "NaN", infinity := "Infinity", minusInfinity := "-Infinity" }

/-- Documents and signals without any space: doubles as short as possible, null for those that
are not finite, and all characters as they are. -/
def compact : JsonStyle where
  indent := none
  itemMark := ","
  keyMark := ":"
  asciiOnly := false
  float := shortFloat

def document (indent : Nat) : JsonStyle :=
  { compact with indent := some indent, keyMark := ": " }

/-- Build reports: ASCII only, with the names of doubles that are not finite. -/
def report (indent : Nat) : JsonStyle where
  indent := some indent
  itemMark := ","
  keyMark := ": "
  asciiOnly := true
  float := reportFloat

/-- A report on one line. -/
def line : JsonStyle where
  indent := none
  itemMark := ", "
  keyMark := ": "
  asciiOnly := true
  float := reportFloat

def unitEscape (n : Nat) : List Char := '\\' :: 'u' :: hexText 4 n

/-- A character past the first plane takes two escapes, one for each surrogate. -/
def wideEscape (n : Nat) : List Char :=
  if n < 0x10000 then unitEscape n
  else unitEscape (0xD800 + (n - 0x10000) / 0x400) ++
    unitEscape (0xDC00 + (n - 0x10000) % 0x400)

def escape (style : JsonStyle) (c : Char) : List Char :=
  if c = '"' ∨ c = '\\' then ['\\', c]
  else if c = '\n' then ['\\', 'n']
  else if c = '\r' then ['\\', 'r']
  else if c = '\t' then ['\\', 't']
  else if c = '\x08' then ['\\', 'b']
  else if c = '\x0c' then ['\\', 'f']
  else if c < ' ' ∨ (style.asciiOnly = true ∧ '~' < c) then wideEscape c.toNat
  else [c]

def text (style : JsonStyle) (s : String) : List Char :=
  '"' :: (s.toList.flatMap style.escape ++ ['"'])

/-- A new line at a level, when the style has lines. -/
def newline (style : JsonStyle) (level : Nat) : List Char :=
  match style.indent with
  | none => []
  | some n => '\n' :: List.replicate (n * level) ' '

mutual

def value (style : JsonStyle) (level : Nat) : Json → List Char
  | .null => ['n', 'u', 'l', 'l']
  | .bool true => ['t', 'r', 'u', 'e']
  | .bool false => ['f', 'a', 'l', 's', 'e']
  | .int v => intText v
  | .float x => style.float.text x
  | .text s => style.text s
  | .array [] => ['[', ']']
  | .array (v :: items) =>
    '[' :: (style.newline (level + 1) ++ style.value (level + 1) v ++
      style.items (level + 1) items ++ style.newline level ++ [']'])
  | .object [] => ['\x7b', '\x7d']
  | .object ((k, v) :: fields) =>
    '\x7b' :: (style.newline (level + 1) ++ style.text k ++ style.keyMark.toList ++
      style.value (level + 1) v ++ style.fields (level + 1) fields ++
      style.newline level ++ ['\x7d'])

/-- The items after the first, each behind its mark. -/
def items (style : JsonStyle) (level : Nat) : List Json → List Char
  | [] => []
  | v :: more => style.itemMark.toList ++ style.newline level ++ style.value level v ++
      style.items level more

/-- The fields after the first, each behind its mark. -/
def fields (style : JsonStyle) (level : Nat) : List (String × Json) → List Char
  | [] => []
  | (k, v) :: more => style.itemMark.toList ++ style.newline level ++ style.text k ++
      style.keyMark.toList ++ style.value level v ++ style.fields level more

end

end JsonStyle

def Json.write (style : JsonStyle) (v : Json) : String := String.ofList (style.value 0 v)

end TradingSignals
