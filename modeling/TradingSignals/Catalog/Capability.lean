import TradingSignals.Json.Value

namespace TradingSignals

/-- What kind of value a declared argument takes. -/
inductive ArgKind where
  | number
  | text
  | choice
  deriving DecidableEq

def ArgKind.name : ArgKind → String
  | .number => "number"
  | .text => "string"
  | .choice => "enum"

/-- An argument that a capability declares; its bounds keep the form they were declared in. -/
structure ArgSpec where
  key : String
  kind : ArgKind := .number
  min : Option Number := none
  max : Option Number := none
  optional : Bool := false
  description : String := ""
  deriving DecidableEq

/-- A signal that the execution system knows how to run. -/
structure Capability where
  id : String
  name : String
  category : String := ""
  description : String := ""
  signalType : String
  aliases : List String := []
  requiredArgs : List ArgSpec := []
  requiredChildren : Int := 0
  childDescriptions : List String := []
  deriving DecidableEq

/-- The signal type of rules, which combine other signals by operators. -/
def parametricType : String := "SignalParametric"

def Capability.isParametric (c : Capability) : Bool := c.signalType == parametricType

def Json.ofNumber : Number → Json
  | .int v => .int v
  | .float x => .float x

def ArgSpec.toJson (a : ArgSpec) : Json :=
  .object
    [("key", .text a.key), ("type", .text a.kind.name), ("min", Json.ofOption Json.ofNumber a.min),
     ("max", Json.ofOption Json.ofNumber a.max), ("optional", .bool a.optional),
     ("description", .text a.description)]

def Capability.toJson (c : Capability) : Json :=
  .object
    [("id", .text c.id), ("name", .text c.name), ("aliases", .array (c.aliases.map .text)),
     ("category", .text c.category), ("description", .text c.description),
     ("signal_type", .text c.signalType),
     ("required_args", .array (c.requiredArgs.map ArgSpec.toJson)),
     ("required_children", .int c.requiredChildren),
     ("child_descriptions", .array (c.childDescriptions.map .text))]

end TradingSignals
