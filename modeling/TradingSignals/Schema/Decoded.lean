import TradingSignals.Json.Reader
import TradingSignals.Schema.Fault

namespace TradingSignals

/-- What decoding gives: a value, or all the faults found on the way. -/
inductive Decoded (α : Type) where
  | ok (a : α)
  | faulty (faults : List SchemaFault)

namespace Decoded

def map {α β : Type} (f : α → β) : Decoded α → Decoded β
  | .ok a => .ok (f a)
  | .faulty e => .faulty e

/-- Both sides are decoded, and the faults of both are kept in order. -/
def both {α β : Type} : Decoded (α → β) → Decoded α → Decoded β
  | .ok f, .ok a => .ok (f a)
  | .ok _, .faulty e => .faulty e
  | .faulty e, .ok _ => .faulty e
  | .faulty e, .faulty e' => .faulty (e ++ e')

instance : Applicative Decoded where
  pure := .ok
  map := map
  seq f a := both f (a ())

def fault {α : Type} (cause : SchemaCause) (input : Json) : Decoded α :=
  .faulty [⟨[], cause, input⟩]

/-- Places the faults of a part one step deeper. -/
def inside {α : Type} (step : LocStep) : Decoded α → Decoded α
  | .ok a => .ok a
  | .faulty e => .faulty (e.map fun f => { f with loc := step :: f.loc })

def toExcept {α : Type} : Decoded α → Except SchemaFailure α
  | .ok a => .ok a
  | .faulty e => .error (.misfit e)

end Decoded

/-- The two spellings of a field: the one on the wire and the plain name. -/
structure FieldName where
  wire : String
  plain : String

namespace FieldName

/-- The field of an object under the spelling found there. The wire spelling is preferred, and
of repeated fields the last counts. -/
def find? {α : Type} (name : FieldName) (fields : List (String × α)) : Option (String × α) :=
  match lastField? name.wire fields with
  | some v => some (name.wire, v)
  | none => (lastField? name.plain fields).map (name.plain, ·)

def required {α : Type} (name : FieldName) (decode : Json → Decoded α)
    (fields : List (String × Json)) : Decoded α :=
  match name.find? fields with
  | some (spelling, v) => (decode v).inside (.key spelling)
  | none => .faulty [⟨[.key name.wire], .missing, .object fields⟩]

def withDefault {α : Type} (name : FieldName) (a : α) (decode : Json → Decoded α)
    (fields : List (String × Json)) : Decoded α :=
  match name.find? fields with
  | some (spelling, v) => (decode v).inside (.key spelling)
  | none => .ok a

/-- A field that may be null or absent. -/
def nullable {α : Type} (name : FieldName) (decode : Json → Decoded α)
    (fields : List (String × Json)) : Decoded (Option α) :=
  match name.find? fields with
  | some (_, .null) => .ok none
  | some (spelling, v) => ((decode v).map some).inside (.key spelling)
  | none => .ok none

end FieldName

namespace Decode

def object {α : Type} (decode : List (String × Json) → Decoded α) : Json → Decoded α
  | .object fields => decode fields
  | v => .fault .notObject v

def indexed {α : Type} (decode : Json → Decoded α) : Nat → List Json → Decoded (List α)
  | _, [] => .ok []
  | i, v :: items => List.cons <$> (decode v).inside (.index i) <*> indexed decode (i + 1) items

def list {α : Type} (decode : Json → Decoded α) : Json → Decoded (List α)
  | .array items => indexed decode 0 items
  | v => .fault .notArray v

def text : Json → Decoded String
  | .text s => .ok s
  | v => .fault .notText v

/-- A double counts as a whole number when it has no fraction and stays below `2^63`. -/
def intOfFloat (x : Binary64) : Except SchemaCause Int :=
  match x.toInt? with
  | some v => if v.natAbs < 0x8000000000000000 then .ok v else .error .integerTooLarge
  | none => .error (if x.isFinite then .fractional else .notFinite)

def integer (v : Json) : Decoded Int :=
  match v with
  | .int n => .ok n
  | .bool b => .ok b.toInt
  | .float x => match intOfFloat x with
    | .ok n => .ok n
    | .error cause => .fault cause v
  | .text s => match readInteger s.toList with
    | .value n => .ok n
    | .tooLong => .fault .integerTooLarge v
    | .unreadable => .fault .unreadableInteger v
  | _ => .fault .notInteger v

/-- In a document a whole number past the greatest double is infinite; in a body it is no number
at all. -/
def float (door : Door) (v : Json) : Decoded Binary64 :=
  match v with
  | .float x => .ok x
  | .int n =>
    if door = .document ∨ (Binary64.ofInt n).isFinite then .ok (.ofInt n) else .fault .notNumber v
  | .bool b => .ok (.ofInt b.toInt)
  | .text s => match readFloat? s.toList with
    | some x => .ok x
    | none => .fault .unreadableNumber v
  | _ => .fault .notNumber v

/-- Words for the two truth values, in small letters. -/
def truthWords : List (String × Bool) :=
  [("0", false), ("off", false), ("f", false), ("false", false), ("n", false), ("no", false),
   ("1", true), ("on", true), ("t", true), ("true", true), ("y", true), ("yes", true)]

/-- The truth value that one and nought stand for; other numbers of 64 bits might have been meant
as one. -/
def boolOfInt (v : Json) (n : Int) : Decoded Bool :=
  if n = 0 then .ok false
  else if n = 1 then .ok true
  else if n < -0x8000000000000000 ∨ 0x8000000000000000 ≤ n then .fault .notBoolean v
  else .fault .unreadableBoolean v

def bool (v : Json) : Decoded Bool :=
  match v with
  | .bool b => .ok b
  | .int n => boolOfInt v n
  | .float x => match intOfFloat x with
    | .ok n => boolOfInt v n
    | .error _ => .fault .notBoolean v
  | .text s => match truthWords.lookup (String.ofList (s.toList.map Char.toLower)) with
    | some b => .ok b
    | none => .fault .unreadableBoolean v
  | _ => .fault .notBoolean v

end Decode

def RawText.text? : RawText → Option String
  | .text s => some s
  | .bytes bs => (decodeUtf8 bs).toOption

/-- Decodes what is given. All of it is read before any of it is decoded. -/
def decodeRaw {α : Type} (decode : Json → Decoded α) (given : RawText) :
    Except SchemaFailure α :=
  match given.text?.map (readJson .strict) with
  | some (.ok v) => (decode v).toExcept
  | _ => .error (.notJson given)

/-- Decodes a document text. -/
def decodeText {α : Type} (decode : Json → Decoded α) (s : String) : Except SchemaFailure α :=
  decodeRaw decode (.text s)

end TradingSignals
