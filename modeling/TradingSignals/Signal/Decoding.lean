import TradingSignals.Signal.Encoding

namespace TradingSignals

namespace Decode

def compiledArg : Json → Decoded CompiledArg :=
  object fun fields =>
    CompiledArg.mk <$> ArgField.key.required text fields
      <*> ArgField.value.required (float .document) fields
      <*> ArgField.baseValue.required (float .document) fields
      <*> ArgField.base.required (float .document) fields
      <*> ArgField.last.required (float .document) fields
      <*> ArgField.min.required (float .document) fields
      <*> ArgField.max.required (float .document) fields
      <*> ArgField.step.withDefault (.ofInt 0) (float .document) fields
      <*> ArgField.type.withDefault 0 integer fields
      <*> ArgField.valueType.withDefault 0 integer fields

def symbolRef : Json → Decoded SymbolRef :=
  object fun fields =>
    SymbolRef.mk <$> SymbolField.fn.nullable text fields
      <*> SymbolField.genMode.withDefault 0 integer fields
      <*> SymbolField.id.nullable text fields
      <*> SymbolField.isSs.withDefault false bool fields
      <*> SymbolField.name.withDefault ({} : SymbolRef).name text fields
      <*> SymbolField.shift.withDefault 0 integer fields
      <*> SymbolField.timeframe.withDefault ({} : SymbolRef).timeframe text fields
      <*> SymbolField.var.nullable text fields

def compiledRule (fields : List (String × Json)) : Decoded CompiledRule :=
  CompiledRule.mk <$> CompiledField.mode1.nullable integer fields
    <*> CompiledField.operation1.nullable text fields
    <*> CompiledField.crossOp.nullable integer fields
    <*> CompiledField.mode2.nullable integer fields
    <*> CompiledField.operation2.nullable text fields
    <*> CompiledField.entry.nullable bool fields
    <*> CompiledField.exit.nullable bool fields

mutual

def compiledSignal : Json → Decoded CompiledSignal
  | .object fields =>
    CompiledSignal.mk <$> CompiledField.signalType.required text fields
      <*> CompiledField.key.required text fields
      <*> CompiledField.typeCode.required integer fields
      <*> CompiledField.args.nullable (list compiledArg) fields
      <*> (match lastCompiled CompiledField.children.wire fields with
        | some children => children
        | none => match lastCompiled CompiledField.children.plain fields with
          | some children => children
          | none => .ok none)
      <*> compiledRule fields
      <*> CompiledField.marketNumber.withDefault 1 integer fields
      <*> CompiledField.required.withDefault false bool fields
      <*> CompiledField.symbol.withDefault {} symbolRef fields
  | v => .fault .notObject v

/-- The signals in the last field of a name. -/
def lastCompiled (name : String) :
    List (String × Json) → Option (Decoded (Option (List CompiledSignal)))
  | [] => none
  | (k, v) :: fields =>
    match lastCompiled name fields with
    | some signals => some signals
    | none => if k == name then some ((compiledList v).inside (.key name)) else none

def compiledList : Json → Decoded (Option (List CompiledSignal))
  | .null => .ok none
  | .array items => (compiledItems 0 items).map some
  | v => .fault .notArray v

def compiledItems : Nat → List Json → Decoded (List CompiledSignal)
  | _, [] => .ok []
  | i, v :: items =>
    List.cons <$> (compiledSignal v).inside (.index i) <*> compiledItems (i + 1) items

end

end Decode

def CompiledSignal.read (s : String) : Except SchemaFailure CompiledSignal :=
  decodeText Decode.compiledSignal s

end TradingSignals
