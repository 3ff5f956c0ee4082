import TradingSignals.Signal.Compiled
import TradingSignals.Strategy.Encoding

namespace TradingSignals

namespace ArgField

def key : FieldName := ⟨"Key", "key"⟩
def value : FieldName := ⟨"Value", "value"⟩
def baseValue : FieldName := ⟨"BaseValue", "base_value"⟩
def base : FieldName := ⟨"Base", "base"⟩
def last : FieldName := ⟨"Last", "last"⟩
def min : FieldName := ⟨"Min", "min"⟩
def max : FieldName := ⟨"Max", "max"⟩
def step : FieldName := ⟨"Step", "step"⟩
def type : FieldName := ⟨"Type", "type"⟩
def valueType : FieldName := ⟨"ValueType", "value_type"⟩

end ArgField

namespace SymbolField

def fn : FieldName := ⟨"Fn", "fn"⟩
def genMode : FieldName := ⟨"GenMd", "gen_md"⟩
def id : FieldName := ⟨"ID", "id"⟩
def isSs : FieldName := ⟨"IsSS", "is_ss"⟩
def name : FieldName := ⟨"Name", "name"⟩
def shift : FieldName := ⟨"Shift", "shift"⟩
def timeframe : FieldName := ⟨"Tf", "tf"⟩
def var : FieldName := ⟨"Var", "var"⟩

end SymbolField

namespace CompiledField

def signalType : FieldName := ⟨"$type", "signal_type"⟩
def key : FieldName := ⟨"Key", "key"⟩
def typeCode : FieldName := ⟨"Type", "type_code"⟩
def args : FieldName := ⟨"Args", "args"⟩
def children : FieldName := ⟨"Children", "children"⟩
def mode1 : FieldName := ⟨"R1Md", "r1_md"⟩
def operation1 : FieldName := ⟨"R1Op", "r1_op"⟩
def crossOp : FieldName := ⟨"CrOp", "cr_op"⟩
def mode2 : FieldName := ⟨"R2Md", "r2_md"⟩
def operation2 : FieldName := ⟨"R2Op", "r2_op"⟩
def entry : FieldName := ⟨"Entry", "entry"⟩
def exit : FieldName := ⟨"Exit", "exit"⟩
def marketNumber : FieldName := ⟨"MktN", "mkt_n"⟩
def required : FieldName := ⟨"Rqd", "rqd"⟩
def symbol : FieldName := ⟨"SymbolId", "symbol_id"⟩

end CompiledField

def CompiledArg.toJson (spelling : Spelling) (a : CompiledArg) : Json :=
  .object
    [(ArgField.key.spelled spelling, .text a.key),
     (ArgField.value.spelled spelling, .float a.value),
     (ArgField.baseValue.spelled spelling, .float a.baseValue),
     (ArgField.base.spelled spelling, .float a.base),
     (ArgField.last.spelled spelling, .float a.last),
     (ArgField.min.spelled spelling, .float a.min),
     (ArgField.max.spelled spelling, .float a.max),
     (ArgField.step.spelled spelling, .float a.step),
     (ArgField.type.spelled spelling, .int a.type),
     (ArgField.valueType.spelled spelling, .int a.valueType)]

def SymbolRef.toJson (spelling : Spelling) (s : SymbolRef) : Json :=
  .object
    [(SymbolField.fn.spelled spelling, Json.ofText? s.fn),
     (SymbolField.genMode.spelled spelling, .int s.genMode),
     (SymbolField.id.spelled spelling, Json.ofText? s.id),
     (SymbolField.isSs.spelled spelling, .bool s.isSs),
     (SymbolField.name.spelled spelling, .text s.name),
     (SymbolField.shift.spelled spelling, .int s.shift),
     (SymbolField.timeframe.spelled spelling, .text s.timeframe),
     (SymbolField.var.spelled spelling, Json.ofText? s.var)]

/-- The rule fields are written together or not at all. -/
def CompiledRule.toFields (spelling : Spelling) (r : CompiledRule) : List (String × Json) :=
  if r.mode1.isNone then []
  else
    [(CompiledField.mode1.spelled spelling, Json.ofInt? r.mode1),
     (CompiledField.operation1.spelled spelling, Json.ofText? r.operation1),
     (CompiledField.crossOp.spelled spelling, Json.ofInt? r.crossOp),
     (CompiledField.mode2.spelled spelling, Json.ofInt? r.mode2),
     (CompiledField.operation2.spelled spelling, Json.ofText? r.operation2),
     (CompiledField.entry.spelled spelling, Json.ofBool? r.entry),
     (CompiledField.exit.spelled spelling, Json.ofBool? r.exit)]

def argRecords (spelling : Spelling) : Option (List CompiledArg) → List (String × Json)
  | none => []
  | some args =>
    [(CompiledField.args.spelled spelling, .array (args.map (CompiledArg.toJson spelling)))]

mutual

/-- A signal as an object; what is absent is left out, not written as null. -/
def CompiledSignal.toJson (spelling : Spelling) : CompiledSignal → Json
  | .mk signalType key typeCode args children rule marketNumber required symbol =>
    .object
      ((CompiledField.signalType.spelled spelling, .text signalType) ::
       (CompiledField.key.spelled spelling, .text key) ::
       (CompiledField.typeCode.spelled spelling, .int typeCode) ::
       (argRecords spelling args ++ childRecords spelling children ++ rule.toFields spelling ++
         [(CompiledField.marketNumber.spelled spelling, .int marketNumber),
          (CompiledField.required.spelled spelling, .bool required),
          (CompiledField.symbol.spelled spelling, symbol.toJson spelling)]))

def childRecords (spelling : Spelling) : Option (List CompiledSignal) → List (String × Json)
  | none => []
  | some signals =>
    [(CompiledField.children.spelled spelling, .array (compiledItemsToJson spelling signals))]

def compiledItemsToJson (spelling : Spelling) : List CompiledSignal → List Json
  | [] => []
  | s :: signals => s.toJson spelling :: compiledItemsToJson spelling signals

end

/-- The form that the execution system takes, in which a double that is not finite is null. -/
def CompiledSignal.toWire (s : CompiledSignal) : Json := (s.toJson .wire).finite

/-- Whether a signal can be written. Every container counts, so that there is room for about half as
many levels as in a document. -/
def CompiledSignal.fits (s : CompiledSignal) : Bool := s.toWire.depth ≤ maxLevels

/-- The wire form of a signal, unless it is too deep. -/
def CompiledSignal.toWire? (s : CompiledSignal) : Except TooDeep Json :=
  if s.fits then .ok s.toWire else .error .signal

def CompiledSignal.write (s : CompiledSignal) : String := (s.toJson .wire).write .compact

end TradingSignals
