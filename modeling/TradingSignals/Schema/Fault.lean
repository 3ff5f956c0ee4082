import TradingSignals.Json.Value

namespace TradingSignals

/-- One step from a value to a part of it. -/
inductive LocStep where
  | key (name : String)
  | index (i : Nat)
  deriving DecidableEq

/-- Why a part of a JSON value does not fit. -/
inductive SchemaCause where
  | notObject
  | notArray
  | notMap
  | notText
  | notInteger
  | notNumber
  | fractional
  | unreadableInteger
  | integerTooLarge
  | notFinite
  | unreadableNumber
  | notBoolean
  | unreadableBoolean
  | missing
  | tooShort
  | tooDeep
  deriving DecidableEq

/-- What does not fit, and where it stands. Of a missing field the input is the object that lacks
it. -/
structure SchemaFault where
  loc : List LocStep
  cause : SchemaCause
  input : Json

/-- Where JSON comes in: as the text of a document, or as the body of a request. The two word
some causes differently, and differ in what they take. -/
inductive Door where
  | document
  | body
  deriving DecidableEq

def SchemaCause.code : Door → SchemaCause → String
  | .document, .notObject => "model_type"
  | .body, .notObject => "model_attributes_type"
  | _, .notArray => "list_type"
  | _, .notMap => "dict_type"
  | _, .notText => "string_type"
  | _, .notInteger => "int_type"
  | _, .notNumber => "float_type"
  | _, .fractional => "int_from_float"
  | _, .unreadableInteger => "int_parsing"
  | _, .integerTooLarge => "int_parsing_size"
  | _, .notFinite => "finite_number"
  | _, .unreadableNumber => "float_parsing"
  | _, .notBoolean => "bool_type"
  | _, .unreadableBoolean => "bool_parsing"
  | _, .missing => "missing"
  | _, .tooShort => "string_too_short"
  | _, .tooDeep => "recursion_depth_exceeded"

def SchemaCause.message : Door → SchemaCause → String
  | .document, .notObject => "Input should be an object"
  | .body, .notObject =>
    "Input should be a valid dictionary or object to extract fields from"
  | .document, .notArray => "Input should be a valid array"
  | .body, .notArray => "Input should be a valid list"
  | .document, .notMap => "Input should be an object"
  | .body, .notMap => "Input should be a valid dictionary"
  | _, .notText => "Input should be a valid string"
  | _, .notInteger => "Input should be a valid integer"
  | _, .notNumber => "Input should be a valid number"
  | _, .fractional =>
    "Input should be a valid integer, got a number with a fractional part"
  | _, .unreadableInteger =>
    "Input should be a valid integer, unable to parse string as an integer"
  | _, .integerTooLarge =>
    "Unable to parse input string as an integer, exceeded maximum size"
  | _, .notFinite => "Input should be a finite number"
  | _, .unreadableNumber =>
    "Input should be a valid number, unable to parse string as a number"
  | _, .notBoolean => "Input should be a valid boolean"
  | _, .unreadableBoolean => "Input should be a valid boolean, unable to interpret input"
  | _, .missing => "Field required"
  | _, .tooShort => "String should have at least 1 character"
  | _, .tooDeep => "Recursion error - maximum validation depth exceeded"

/-- What is given to be decoded: a text, or bytes that should be UTF-8. -/
inductive RawText where
  | text (s : String)
  | bytes (bs : List UInt8)

/-- Why what was given is refused: it is no JSON, or it is JSON of another shape. -/
inductive SchemaFailure where
  | notJson (given : RawText)
  | misfit (faults : List SchemaFault)

/-- How a failure is told: the text made of the name of the shape and of the failure, which holds
all that was refused. Its words are those of the library that checks shapes, so they are a
parameter of whatever tells failures. -/
abbrev Wording := String → SchemaFailure → String

end TradingSignals
