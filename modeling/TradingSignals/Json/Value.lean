import TradingSignals.Number.Binary64
import TradingSignals.Text.Quoted

namespace TradingSignals

/-- A JSON value over a type of texts. Whole numbers and doubles are kept apart, and an object
lists its fields as they were written, repeated keys included. -/
inductive JsonTree (τ : Type) where
  | null
  | bool (b : Bool)
  | int (v : Int)
  | float (x : Binary64)
  | text (s : τ)
  | array (items : List (JsonTree τ))
  | object (fields : List (τ × JsonTree τ))

abbrev Json := JsonTree String

abbrev LooseJson := JsonTree LooseText

/-- Sets a key: a known key keeps its place and takes the new value, a new one goes last. -/
def putField {τ α : Type} [BEq τ] (fields : List (τ × α)) (k : τ) (v : α) : List (τ × α) :=
  if fields.any (·.1 == k) then fields.map fun f => if f.1 == k then (k, v) else f
  else fields ++ [(k, v)]

/-- The last value written under a key. -/
def lastField? {τ α : Type} [BEq τ] (k : τ) : List (τ × α) → Option α
  | [] => none
  | f :: fields => lastField? k fields <|> if f.1 == k then some f.2 else none

mutual

/-- Every object with each key once. -/
def JsonTree.settled {τ : Type} [BEq τ] : JsonTree τ → JsonTree τ
  | .array items => .array (settledItems items)
  | .object fields => .object (settledFields [] fields)
  | v => v

def settledItems {τ : Type} [BEq τ] : List (JsonTree τ) → List (JsonTree τ)
  | [] => []
  | v :: items => v.settled :: settledItems items

def settledFields {τ : Type} [BEq τ] (done : List (τ × JsonTree τ)) :
    List (τ × JsonTree τ) → List (τ × JsonTree τ)
  | [] => done
  | (k, v) :: fields => settledFields (putField done k v.settled) fields

end

mutual

/-- The value with every text changed by `f`. -/
def JsonTree.mapText {τ υ : Type} (f : τ → υ) : JsonTree τ → JsonTree υ
  | .null => .null
  | .bool b => .bool b
  | .int v => .int v
  | .float x => .float x
  | .text s => .text (f s)
  | .array items => .array (mapTextItems f items)
  | .object fields => .object (mapTextFields f fields)

def mapTextItems {τ υ : Type} (f : τ → υ) : List (JsonTree τ) → List (JsonTree υ)
  | [] => []
  | v :: items => v.mapText f :: mapTextItems f items

def mapTextFields {τ υ : Type} (f : τ → υ) : List (τ × JsonTree τ) → List (υ × JsonTree υ)
  | [] => []
  | (k, v) :: fields => (f k, v.mapText f) :: mapTextFields f fields

end

mutual

/-- The value with every double that is not finite made null. -/
def JsonTree.finite {τ : Type} : JsonTree τ → JsonTree τ
  | .float x => if x.isFinite then .float x else .null
  | .array items => .array (finiteItems items)
  | .object fields => .object (finiteFields fields)
  | v => v

def finiteItems {τ : Type} : List (JsonTree τ) → List (JsonTree τ)
  | [] => []
  | v :: items => v.finite :: finiteItems items

def finiteFields {τ : Type} : List (τ × JsonTree τ) → List (τ × JsonTree τ)
  | [] => []
  | (k, v) :: fields => (k, v.finite) :: finiteFields fields

end

mutual

/-- How deep containers stand inside one another. -/
def JsonTree.depth {τ : Type} : JsonTree τ → Nat
  | .array items => depthOfItems items + 1
  | .object fields => depthOfFields fields + 1
  | _ => 0

def depthOfItems {τ : Type} : List (JsonTree τ) → Nat
  | [] => 0
  | v :: items => max v.depth (depthOfItems items)

def depthOfFields {τ : Type} : List (τ × JsonTree τ) → Nat
  | [] => 0
  | (_, v) :: fields => max v.depth (depthOfFields fields)

end

mutual

/-- Whether `p` holds of every double and `q` of every text, keys included. -/
def JsonTree.all {τ : Type} (p : Binary64 → Bool) (q : τ → Bool) : JsonTree τ → Bool
  | .float x => p x
  | .text s => q s
  | .array items => allItems p q items
  | .object fields => allFields p q fields
  | _ => true

def allItems {τ : Type} (p : Binary64 → Bool) (q : τ → Bool) : List (JsonTree τ) → Bool
  | [] => true
  | v :: items => v.all p q && allItems p q items

def allFields {τ : Type} (p : Binary64 → Bool) (q : τ → Bool) : List (τ × JsonTree τ) → Bool
  | [] => true
  | (k, v) :: fields => q k && v.all p q && allFields p q fields

end

mutual

/-- Every text of a value, keys included. -/
def JsonTree.texts {τ : Type} : JsonTree τ → List τ
  | .text s => [s]
  | .array items => textsOfItems items
  | .object fields => textsOfFields fields
  | _ => []

def textsOfItems {τ : Type} : List (JsonTree τ) → List τ
  | [] => []
  | v :: items => v.texts ++ textsOfItems items

def textsOfFields {τ : Type} : List (τ × JsonTree τ) → List τ
  | [] => []
  | (k, v) :: fields => k :: v.texts ++ textsOfFields fields

end

namespace Json

def ofOption {α : Type} (f : α → Json) : Option α → Json
  | none => .null
  | some a => f a

def ofText? : Option String → Json := ofOption .text

def ofInt? : Option Int → Json := ofOption .int

def ofFloat? : Option Binary64 → Json := ofOption .float

def ofBool? : Option Bool → Json := ofOption .bool

end Json

end TradingSignals
