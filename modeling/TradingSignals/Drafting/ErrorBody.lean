import TradingSignals.Json.Reader

namespace TradingSignals

namespace ErrorBody

mutual

/-- A value in a message: texts in quotes, names for the constants. -/
def shown : LooseJson → List Char
  | .null => ['N', 'o', 'n', 'e']
  | .bool true => ['T', 'r', 'u', 'e']
  | .bool false => ['F', 'a', 'l', 's', 'e']
  | .int v => intText v
  | .float x => FloatStyle.report.text x
  | .text t => t.quoted
  | .array [] => ['[', ']']
  | .array (v :: items) => '[' :: (shown v ++ shownItems items ++ [']'])
  | .object [] => ['\x7b', '\x7d']
  | .object ((k, v) :: fields) =>
    '\x7b' :: (k.quoted ++ ':' :: ' ' :: shown v ++ shownFields fields ++ ['\x7d'])

/-- The items after the first. -/
def shownItems : List LooseJson → List Char
  | [] => []
  | v :: items => ',' :: ' ' :: shown v ++ shownItems items

/-- The fields after the first. -/
def shownFields : List (LooseText × LooseJson) → List Char
  | [] => []
  | (k, v) :: fields => ',' :: ' ' :: k.quoted ++ ':' :: ' ' :: shown v ++ shownFields fields

end

/-- Whether a value tells something: it is not null, false, nought or empty. -/
def tells : LooseJson → Bool
  | .null => false
  | .bool b => b
  | .int v => v != 0
  | .float x => x.place != .point 0
  | .text t => !t.isEmpty
  | .array items => !items.isEmpty
  | .object fields => !fields.isEmpty

/-- A value on its own; a text stands without quotes. -/
def plain : LooseJson → LooseText
  | .text t => t
  | v => (shown v).map .char

/-- A field of an error object, when it tells something. -/
def field? (name : String) (fields : List (LooseText × LooseJson)) : Option LooseText :=
  ((lastField? (LooseText.ofString name) fields).filter tells).map plain

def describe (fields : List (LooseText × LooseJson)) : LooseText :=
  let detail := (field? "message" fields <|> field? "code" fields).getD
    (LooseText.ofString "Unknown error")
  match field? "type" fields with
  | some type => detail ++ LooseText.ofString " (Type: " ++ type ++ LooseText.ofString ")"
  | none => detail

end ErrorBody

/-- What the body of a failed response tells: the message in its error object, else all of it. A
body that nests too deep cannot be looked into. -/
def describeErrorBody (body : String) : Except JsonContainer LooseText :=
  match readJson .loose body with
  | .ok v => .ok (match v.settled with
    | .object fields => match lastField? (LooseText.ofString "error") fields with
      | some (.object error) => ErrorBody.describe error
      | _ => LooseText.ofString body
    | _ => LooseText.ofString body)
  | .error (.tooDeep container) => .error container
  | .error _ => .ok (LooseText.ofString body)

end TradingSignals
