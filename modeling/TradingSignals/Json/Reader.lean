import TradingSignals.Json.Value
import TradingSignals.Number.Numeral
import TradingSignals.Text.Encoding

namespace TradingSignals

/-- What two readers of JSON may differ in: the texts they take, how deep containers may nest,
the outermost one included, and whether the length of every number is limited, its minus sign
counted, or only that of whole numbers. -/
structure JsonGrammar (τ : Type) where
  text : LooseText → Option τ
  nesting : Nat
  limitsAll : Bool

/-- Documents: proper texts only, and at most 200 containers inside the outermost one. -/
def JsonGrammar.strict : JsonGrammar String where
  text := LooseText.toString?
  nesting := 201
  limitsAll := true

/-- Bodies sent by other programs: unpaired surrogates are let through, and containers nest
nearly as deep as the stack of their reader. -/
def JsonGrammar.loose : JsonGrammar LooseText where
  text := some
  nesting := 970
  limitsAll := false

inductive JsonContainer where
  | array
  | object
  deriving DecidableEq

def JsonContainer.name : JsonContainer → String
  | .array => "array"
  | .object => "object"

inductive JsonFault where
  | malformed
  | integerTooLong
  | tooDeep (container : JsonContainer)
  deriving DecidableEq

namespace JsonReader

def isSpace (c : Char) : Bool := c == ' ' || c == '\t' || c == '\n' || c == '\r'

def skipSpace (cs : List Char) : List Char := cs.dropWhile isSpace

def hexValue? (c : Char) : Option Nat :=
  if c.isDigit then some (c.toNat - '0'.toNat)
  else if 'a' ≤ c ∧ c ≤ 'f' then some (c.toNat - 'a'.toNat + 10)
  else if 'A' ≤ c ∧ c ≤ 'F' then some (c.toNat - 'A'.toNat + 10)
  else none

def hex4? (a b c d : Char) : Option Nat := do
  return 4096 * (← hexValue? a) + 256 * (← hexValue? b) + 16 * (← hexValue? c) + (← hexValue? d)

/-- The character after a backslash, other than `u`. -/
def escaped? : Char → Option Char
  | '"' => some '"'
  | '\\' => some '\\'
  | '/' => some '/'
  | 'b' => some '\x08'
  | 'f' => some '\x0c'
  | 'n' => some '\n'
  | 'r' => some '\r'
  | 't' => some '\t'
  | _ => none

/-- The text up to the closing quote, behind the code points already read in reverse. -/
def textBody (done : LooseText) : List Char → Option (LooseText × List Char)
  | [] => none
  | '"' :: cs => some (done.reverse, cs)
  | '\\' :: 'u' :: a :: b :: c :: d :: cs =>
    match hex4? a b c d with
    | some n => textBody (.ofUnit n :: done) cs
    | none => none
  | '\\' :: e :: cs =>
    match escaped? e with
    | some c => textBody (.char c :: done) cs
    | none => none
  | c :: cs => if c < ' ' then none else textBody (.char c :: done) cs

def text {τ : Type} (g : JsonGrammar τ) (cs : List Char) : Except JsonFault (τ × List Char) :=
  match textBody [] cs with
  | some (t, rest) =>
    match g.text t.pairUp with
    | some s => .ok (s, rest)
    | none => .error .malformed
  | none => .error .malformed

/-- The digits a number starts with; a zero stands alone. -/
def wholePart (cs : List Char) : List Char :=
  match cs.takeWhile Char.isDigit with
  | '0' :: _ => ['0']
  | digits => digits

/-- A number after its sign. It is whole when neither a point with a digit behind it nor an
exponent follows. -/
def magnitude {τ : Type} (g : JsonGrammar τ) (negative : Bool) (cs : List Char) :
    Except JsonFault (JsonTree τ × List Char) :=
  let whole := wholePart cs
  let rest := cs.drop whole.length
  let (fraction, afterFraction) :=
    if startsWithDigit (rest.drop 1) then takeFraction rest else ([], rest)
  let (e, after) := (takeExponent afterFraction).getD (0, afterFraction)
  if whole.isEmpty then .error .malformed
  else if g.limitsAll && maxDigits < negative.toNat + whole.length then .error .integerTooLong
  else if after.length = rest.length then
    if maxDigits < whole.length then .error .integerTooLong
    else
      let n : Int := digitsValue whole
      .ok (.int (if negative then -n else n), rest)
  else .ok (.float (.ofDecimal negative (digitsValue (whole ++ fraction))
    (e - fraction.length)), after)

/-- A value that is no container and no text. -/
def atom {τ : Type} (g : JsonGrammar τ) :
    List Char → Except JsonFault (JsonTree τ × List Char)
  | 'n' :: 'u' :: 'l' :: 'l' :: cs => .ok (.null, cs)
  | 't' :: 'r' :: 'u' :: 'e' :: cs => .ok (.bool true, cs)
  | 'f' :: 'a' :: 'l' :: 's' :: 'e' :: cs => .ok (.bool false, cs)
  | 'N' :: 'a' :: 'N' :: cs => .ok (.float .nan, cs)
  | 'I' :: 'n' :: 'f' :: 'i' :: 'n' :: 'i' :: 't' :: 'y' :: cs =>
    .ok (.float (.infinite false), cs)
  | '-' :: 'I' :: 'n' :: 'f' :: 'i' :: 'n' :: 'i' :: 't' :: 'y' :: cs =>
    .ok (.float (.infinite true), cs)
  | '-' :: cs => magnitude g true cs
  | cs => magnitude g false cs

mutual

/-- One value from the first character on. The first number is fuel, never short when it is
twice the length and two; the second counts the containers that may still be opened inside one
another. -/
def value {τ : Type} (g : JsonGrammar τ) :
    Nat → Nat → List Char → Except JsonFault (JsonTree τ × List Char)
  | 0, _, _ => .error .malformed
  | _ + 1, _, '"' :: cs =>
    match text g cs with
    | .ok (s, rest) => .ok (.text s, rest)
    | .error e => .error e
  | fuel + 1, room + 1, '[' :: cs =>
    match skipSpace cs with
    | ']' :: rest => .ok (.array [], rest)
    | cs => match items g fuel room cs with
      | .ok (vs, rest) => .ok (.array vs, rest)
      | .error e => .error e
  | fuel + 1, room + 1, '\x7b' :: cs =>
    match skipSpace cs with
    | '\x7d' :: rest => .ok (.object [], rest)
    | cs => match fields g fuel room cs with
      | .ok (fs, rest) => .ok (.object fs, rest)
      | .error e => .error e
  | _ + 1, 0, '[' :: _ => .error (.tooDeep .array)
  | _ + 1, 0, '\x7b' :: _ => .error (.tooDeep .object)
  | _, _, cs => atom g cs

/-- The items of an array up to its end; at least one. -/
def items {τ : Type} (g : JsonGrammar τ) :
    Nat → Nat → List Char → Except JsonFault (List (JsonTree τ) × List Char)
  | 0, _, _ => .error .malformed
  | fuel + 1, room, cs =>
    match value g fuel room cs with
    | .error e => .error e
    | .ok (v, rest) =>
      match skipSpace rest with
      | ']' :: rest => .ok ([v], rest)
      | ',' :: rest => match items g fuel room (skipSpace rest) with
        | .ok (vs, rest) => .ok (v :: vs, rest)
        | .error e => .error e
      | _ => .error .malformed

/-- The fields of an object up to its end; at least one. -/
def fields {τ : Type} (g : JsonGrammar τ) :
    Nat → Nat → List Char → Except JsonFault (List (τ × JsonTree τ) × List Char)
  | fuel + 1, room, '"' :: cs =>
    match text g cs with
    | .error e => .error e
    | .ok (k, rest) =>
      match skipSpace rest with
      | ':' :: rest =>
        match value g fuel room (skipSpace rest) with
        | .error e => .error e
        | .ok (v, rest) =>
          match skipSpace rest with
          | '\x7d' :: rest => .ok ([(k, v)], rest)
          | ',' :: rest => match fields g fuel room (skipSpace rest) with
            | .ok (fs, rest) => .ok ((k, v) :: fs, rest)
            | .error e => .error e
          | _ => .error .malformed
      | _ => .error .malformed
  | _, _, _ => .error .malformed

end

end JsonReader

/-- Reads one value with nothing but space around it. -/
def readJson {τ : Type} (g : JsonGrammar τ) (s : String) : Except JsonFault (JsonTree τ) :=
  let cs := s.toList
  match JsonReader.value g (2 * cs.length + 2) g.nesting (JsonReader.skipSpace cs) with
  | .ok (v, rest) => if (JsonReader.skipSpace rest).isEmpty then .ok v else .error .malformed
  | .error e => .error e

end TradingSignals
