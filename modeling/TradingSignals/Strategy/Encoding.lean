import TradingSignals.Json.Writer
import TradingSignals.Strategy.Decoding

namespace TradingSignals

/-- Which of its two spellings a field is written under. -/
inductive Spelling where
  | wire
  | plain
  deriving DecidableEq

def FieldName.spelled (name : FieldName) : Spelling → String
  | .wire => name.wire
  | .plain => name.plain

def Scalar.toJson : Scalar → Json
  | .int v => .int v
  | .float x => .float x
  | .text s => .text s
  | .flag b => .bool b

def argsToJson (args : List (String × Scalar)) : Json :=
  .object (args.map fun a => (a.1, a.2.toJson))

def RuleFields.toFields (spelling : Spelling) (r : RuleFields) : List (String × Json) :=
  [(SignalField.mode1.spelled spelling, Json.ofText? r.mode1),
   (SignalField.operation1.spelled spelling, Json.ofText? r.operation1),
   (SignalField.crossOp.spelled spelling, Json.ofText? r.crossOp),
   (SignalField.mode2.spelled spelling, Json.ofText? r.mode2),
   (SignalField.operation2.spelled spelling, Json.ofText? r.operation2)]

mutual

def SignalNode.toJson (spelling : Spelling) : SignalNode → Json
  | .mk catalogId args children rule =>
    .object
      ((SignalField.catalogId.spelled spelling, .text catalogId) ::
       (SignalField.args.spelled spelling, argsToJson args) ::
       (SignalField.children.spelled spelling, .array (signalItemsToJson spelling children)) ::
       rule.toFields spelling)

def signalItemsToJson (spelling : Spelling) : List SignalNode → List Json
  | [] => []
  | n :: nodes => n.toJson spelling :: signalItemsToJson spelling nodes

end

def Settings.toJson (s : Settings) : Json :=
  .object
    [(SettingsField.symbol.wire, Json.ofText? s.symbol),
     (SettingsField.timeframe.wire, Json.ofText? s.timeframe),
     (SettingsField.startDate.wire, Json.ofText? s.startDate),
     (SettingsField.endDate.wire, Json.ofText? s.endDate),
     (SettingsField.positionSize.wire, Json.ofFloat? s.positionSize),
     (SettingsField.maxPositions.wire, Json.ofInt? s.maxPositions),
     (SettingsField.maxHoldDays.wire, Json.ofInt? s.maxHoldDays),
     (SettingsField.entryMode.wire, Json.ofText? s.entryMode),
     (SettingsField.exitMode.wire, Json.ofText? s.exitMode)]

def Strategy.toJson (s : Strategy) : Json :=
  .object
    [(StrategyField.entrySignals.wire, .array (signalItemsToJson .wire s.entrySignals)),
     (StrategyField.exitSignals.wire, .array (signalItemsToJson .wire s.exitSignals)),
     (StrategyField.settings.wire, Json.ofOption Settings.toJson s.settings),
     (StrategyField.clarificationRequest.wire, Json.ofText? s.clarificationRequest)]

def StrategyDocument.toJson (d : StrategyDocument) : Json :=
  .object
    [(StrategyField.version.wire, .text d.version),
     (StrategyField.strategy.wire, Json.ofOption Strategy.toJson d.strategy)]

/-- The document as a text that `StrategyDocument.read` takes back. -/
def StrategyDocument.write (indent : Nat) (d : StrategyDocument) : String :=
  d.toJson.write (.document indent)

/-- What could not be written for its depth: a document as an object or as a text, or a compiled
signal. -/
inductive TooDeep where
  | object
  | text
  | signal
  deriving DecidableEq

def TooDeep.message : TooDeep → String
  | .object => "Maximum serialization depth exceeded"
  | .text => "Error serializing to JSON: ValueError: Maximum serialization depth exceeded"
  | .signal => "Error calling function `_omit_absent_fields`: ValueError: " ++
      "Maximum serialization depth exceeded"

/-- The document as an object, unless it is too deep. -/
def StrategyDocument.toJson? (d : StrategyDocument) : Except TooDeep Json :=
  if d.height ≤ maxLevels then .ok d.toJson else .error .object

/-- The document as a text, unless it is too deep. -/
def StrategyDocument.write? (indent : Nat) (d : StrategyDocument) : Except TooDeep String :=
  if d.height ≤ maxLevels then .ok (d.write indent) else .error .text

end TradingSignals
