import TradingSignals.Schema.Decoded
import TradingSignals.Strategy.Document

namespace TradingSignals

namespace SignalField

def catalogId : FieldName := ⟨"CatalogId", "catalog_id"⟩
def args : FieldName := ⟨"Args", "args"⟩
def children : FieldName := ⟨"Children", "children"⟩
def mode1 : FieldName := ⟨"Rule1Mode", "rule1_mode"⟩
def operation1 : FieldName := ⟨"Rule1Operation", "rule1_operation"⟩
def crossOp : FieldName := ⟨"CrossOp", "cross_op"⟩
def mode2 : FieldName := ⟨"Rule2Mode", "rule2_mode"⟩
def operation2 : FieldName := ⟨"Rule2Operation", "rule2_operation"⟩

end SignalField

namespace SettingsField

def symbol : FieldName := ⟨"Symbol", "symbol"⟩
def timeframe : FieldName := ⟨"Timeframe", "timeframe"⟩
def startDate : FieldName := ⟨"StartDate", "start_date"⟩
def endDate : FieldName := ⟨"EndDate", "end_date"⟩
def positionSize : FieldName := ⟨"PositionSize", "position_size"⟩
def maxPositions : FieldName := ⟨"MaxPositions", "max_positions"⟩
def maxHoldDays : FieldName := ⟨"MaxHoldDays", "max_hold_days"⟩
def entryMode : FieldName := ⟨"EntryMode", "entry_mode"⟩
def exitMode : FieldName := ⟨"ExitMode", "exit_mode"⟩

end SettingsField

namespace StrategyField

def entrySignals : FieldName := ⟨"EntrySignals", "entry_signals"⟩
def exitSignals : FieldName := ⟨"ExitSignals", "exit_signals"⟩
def settings : FieldName := ⟨"Settings", "settings"⟩
def clarificationRequest : FieldName := ⟨"ClarificationRequest", "clarification_request"⟩
def version : FieldName := ⟨"Version", "version"⟩
def strategy : FieldName := ⟨"Strategy", "strategy"⟩

end StrategyField

namespace Decode

/-- An argument is tried as each kind of number and as a text, never converted. -/
def scalar : Json → Decoded Scalar
  | .int v => .ok (.int v)
  | .float x => .ok (.float x)
  | .text s => .ok (.text s)
  | v => .faulty
    [⟨[.key "int"], .notInteger, v⟩, ⟨[.key "float"], .notNumber, v⟩,
     ⟨[.key "str"], .notText, v⟩]

/-- Every entry is checked, also one that a later entry with the same key replaces. -/
def scalars : List (String × Json) → Decoded (List (String × Scalar))
  | [] => .ok []
  | (k, v) :: fields =>
    (fun x rest => (k, x) :: rest) <$> (scalar v).inside (.key k) <*> scalars fields

def args : Json → Decoded (List (String × Scalar))
  | .object fields =>
    (scalars fields).map fun entries => entries.foldl (fun done e => putField done e.1 e.2) []
  | v => .fault .notMap v

def rule (fields : List (String × Json)) : Decoded RuleFields :=
  RuleFields.mk <$> SignalField.mode1.nullable text fields
    <*> SignalField.operation1.nullable text fields
    <*> SignalField.crossOp.nullable text fields
    <*> SignalField.mode2.nullable text fields
    <*> SignalField.operation2.nullable text fields

/-- How many levels of signals are looked into. The nesting of a document text has a limit of its
own, which is lower. -/
def levels : Door → Option Nat
  | .document => none
  | .body => some maxLevels

mutual

/-- A signal with at most `room` levels, its own included. -/
def signal (room : Option Nat) : Json → Decoded SignalNode
  | .object fields =>
    if room = some 0 then .fault .tooDeep (.object fields)
    else
      SignalNode.mk <$> SignalField.catalogId.withDefault "" text fields
        <*> SignalField.args.withDefault [] args fields
        <*> (match lastSignals (room.map (· - 1)) SignalField.children.wire fields with
          | some children => children
          | none =>
            match lastSignals (room.map (· - 1)) SignalField.children.plain fields with
            | some children => children
            | none => .ok [])
        <*> rule fields
  | v => .fault (if room = some 0 then .tooDeep else .notObject) v

/-- The signals in the last field of a name. -/
def lastSignals (room : Option Nat) (name : String) :
    List (String × Json) → Option (Decoded (List SignalNode))
  | [] => none
  | (k, v) :: fields =>
    match lastSignals room name fields with
    | some signals => some signals
    | none => if k == name then some ((signalList room v).inside (.key name)) else none

def signalList (room : Option Nat) : Json → Decoded (List SignalNode)
  | .array items => signalItems room 0 items
  | v => .fault .notArray v

def signalItems (room : Option Nat) : Nat → List Json → Decoded (List SignalNode)
  | _, [] => .ok []
  | i, v :: items =>
    List.cons <$> (signal room v).inside (.index i) <*> signalItems room (i + 1) items

end

def settings (door : Door) : Json → Decoded Settings :=
  object fun fields =>
    Settings.mk <$> SettingsField.symbol.nullable text fields
      <*> SettingsField.timeframe.nullable text fields
      <*> SettingsField.startDate.nullable text fields
      <*> SettingsField.endDate.nullable text fields
      <*> SettingsField.positionSize.nullable (float door) fields
      <*> SettingsField.maxPositions.nullable integer fields
      <*> SettingsField.maxHoldDays.nullable integer fields
      <*> SettingsField.entryMode.nullable text fields
      <*> SettingsField.exitMode.nullable text fields

def strategy (door : Door) : Json → Decoded Strategy :=
  object fun fields =>
    Strategy.mk <$> StrategyField.entrySignals.withDefault [] (signalList (levels door)) fields
      <*> StrategyField.exitSignals.withDefault [] (signalList (levels door)) fields
      <*> StrategyField.settings.nullable (settings door) fields
      <*> StrategyField.clarificationRequest.nullable text fields

def strategyDocument (door : Door) : Json → Decoded StrategyDocument :=
  object fun fields =>
    StrategyDocument.mk <$> StrategyField.version.withDefault currentVersion text fields
      <*> StrategyField.strategy.nullable (strategy door) fields

end Decode

/-- Reads a strategy document; all faults of its shape are reported together. -/
def StrategyDocument.read (s : String) : Except SchemaFailure StrategyDocument :=
  decodeText (Decode.strategyDocument .document) s

def SignalNode.read (s : String) : Except SchemaFailure SignalNode :=
  decodeText (Decode.signal (Decode.levels .document)) s

end TradingSignals
