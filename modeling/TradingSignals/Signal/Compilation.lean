import TradingSignals.Catalog.Catalog
import TradingSignals.Schema.Decoded
import TradingSignals.Signal.Codes
import TradingSignals.Signal.Compiled

namespace TradingSignals

/-- Why a tree cannot be compiled. -/
inductive CompileFault where
  | unknownCapability (id : String)
  | conversion (fault : ConversionFault)
  | record (failure : SchemaFailure)

def CompileFault.message (wording : Wording) : CompileFault → String
  | .unknownCapability id => "Unknown capability: " ++ id
  | .conversion fault => fault.message
  | .record failure => wording "CompiledArg" failure

/-- The arguments that show in a signal's key, in the order of their names. -/
def keyArgs : List String := ["Depth", "Length"]

/-- A name for a signal, such as `SMA_200`, to be recognised by; two signals may share it. -/
def Capability.signalKey (c : Capability) (args : List (String × Scalar)) : String :=
  String.intercalate "_" (c.name :: keyArgs.filterMap fun k => (args.lookup k).map Scalar.shown)

/-- A bound in a record. It was declared in the catalog, so it is taken as the fields of a body
are: a whole number past the greatest double does not fit. -/
def recordBound (name : String) (bound : Number) : Decoded Binary64 :=
  (Decode.float .body (Json.ofNumber bound)).inside (.key name)

/-- All values of an argument start out as the one given. Without declared bounds it ranges from
nought to a million. -/
def ArgSpec.compiled (spec : ArgSpec) (value : Binary64) : Decoded CompiledArg :=
  (fun min max =>
    { key := spec.key, value := value, baseValue := value, base := value, last := value,
      min := min, max := max })
    <$> recordBound "min" (spec.min.getD (.int 0))
    <*> recordBound "max" (spec.max.getD (.int 1000000))

/-- The declared arguments that are given, in the order they are declared in. -/
def compileArgs (args : List (String × Scalar)) :
    List ArgSpec → Except CompileFault (List CompiledArg)
  | [] => .ok []
  | spec :: specs =>
    match args.lookup spec.key with
    | none => compileArgs args specs
    | some v => do
      let value ← v.toFloat.mapError .conversion
      let record ← (spec.compiled value).toExcept.mapError .record
      let rest ← compileArgs args specs
      return record :: rest

/-- The codes of a rule. A signal that may enter a position never leaves one. -/
def RuleFields.compiled (r : RuleFields) : CompiledRule where
  mode1 := some (ruleModeCode r.mode1)
  operation1 := some ((given? r.operation1).getD defaultOperation)
  crossOp := some (crossOpCode ((given? r.crossOp).getD defaultCrossOp))
  mode2 := some (ruleModeCode r.mode2)
  operation2 := r.operation2
  entry := some true
  exit := some false

/-- The compiled form of a signal, its children left out. -/
def Capability.compiled (c : Capability) (args : List (String × Scalar)) (rule : RuleFields) :
    Except CompileFault CompiledSignal := do
  let records ← compileArgs args c.requiredArgs
  return {
    signalType := c.signalType
    key := c.signalKey args
    typeCode := signalTypeCode c.signalType
    args := if args.isEmpty && c.requiredArgs.isEmpty then none else some records
    rule := if c.isParametric then rule.compiled else {}
  }

mutual

/-- Compiles a tree. Its id comes first, then its arguments, then its children; the first of them
that fails is reported. -/
def SignalNode.compile (catalog : Catalog) : SignalNode → Except CompileFault CompiledSignal
  | .mk id args children rule =>
    match catalog.lookup id with
    | none => .error (.unknownCapability id)
    | some c => do
      let signal ← c.compiled args rule
      let below ← compileSignals catalog children
      return { signal with children := if children.isEmpty then none else some below }

def compileSignals (catalog : Catalog) :
    List SignalNode → Except CompileFault (List CompiledSignal)
  | [] => .ok []
  | n :: nodes => do
    let first ← n.compile catalog
    let rest ← compileSignals catalog nodes
    return first :: rest

end

/-- The key of a signal, when its id is known. -/
def SignalNode.key? (catalog : Catalog) (n : SignalNode) : Option String :=
  (catalog.lookup n.catalogId).map fun c => c.signalKey n.args

end TradingSignals
