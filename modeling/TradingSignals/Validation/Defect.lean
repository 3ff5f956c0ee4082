import TradingSignals.Catalog.Capability
import TradingSignals.Strategy.Document
import TradingSignals.Validation.Problem

namespace TradingSignals

/-- What can be wrong with one signal, its children left aside. -/
inductive Defect where
  | unknownSignal
  | missingArg (key : String)
  | noNumber (key : String)
  | below (key : String) (bound : Binary64)
  | above (key : String) (bound : Binary64)
  | fewChildren (required : Int) (given : Nat)
  | noMode
  | otherMode
  | noOperation
  | noCrossOp
  deriving DecidableEq

/-- The part of a signal that a defect lies in. -/
inductive NodePart where
  | whole
  | args
  | arg (key : String)
  | children
  | mode
  | operation
  | crossOp
  deriving DecidableEq

def NodePart.path : NodePart → String
  | .whole => ""
  | .args => ".Args"
  | .arg key => ".Args." ++ key
  | .children => ".Children"
  | .mode => ".Rule1Mode"
  | .operation => ".Rule1Operation"
  | .crossOp => ".CrossOp"

namespace Defect

def part : Defect → NodePart
  | .unknownSignal => .whole
  | .missingArg _ => .args
  | .noNumber key | .below key _ | .above key _ => .arg key
  | .fewChildren _ _ => .children
  | .noMode | .otherMode => .mode
  | .noOperation => .operation
  | .noCrossOp => .crossOp

def kind : Defect → ProblemKind
  | .unknownSignal => .unknownCapability
  | .missingArg _ => .missingArgument
  | .noNumber _ => .argumentType
  | .below _ _ | .above _ _ => .argumentBound
  | .fewChildren _ _ => .childCount
  | .noMode | .otherMode | .noOperation | .noCrossOp => .parametricField

/-- What is said about a defect of the signal with an id, in the spelling it was given in. -/
def message (id : String) : Defect → String
  | .unknownSignal => "Unknown signal catalog ID: " ++ id
  | .missingArg key => "Missing required argument '" ++ key ++ "' for signal '" ++ id ++ "'"
  | .noNumber key => "Argument '" ++ key ++ "' must be a number for signal '" ++ id ++ "'"
  | .below key bound =>
    "Argument '" ++ key ++ "' must be >= " ++ bound.shown ++ " for signal '" ++ id ++ "'"
  | .above key bound =>
    "Argument '" ++ key ++ "' must be <= " ++ bound.shown ++ " for signal '" ++ id ++ "'"
  | .fewChildren required given =>
    "Signal '" ++ id ++ "' requires " ++ String.ofList (intText required) ++
      " children, but " ++ String.ofList (natText given) ++ " provided"
  | .noMode => "Parametric signal '" ++ id ++ "' requires Rule1Mode"
  | .otherMode => "Rule1Mode must be 'Signal' or 'Value' for signal '" ++ id ++ "'"
  | .noOperation => "Parametric signal '" ++ id ++ "' requires Rule1Operation"
  | .noCrossOp => "Parametric signal '" ++ id ++ "' requires CrossOp"

end Defect

/-- What `f` finds in each member, in order; the first failure ends the search. -/
def gather {ε α β : Type} (f : α → Except ε (List β)) : List α → Except ε (List β)
  | [] => .ok []
  | a :: as => do
    let first ← f a
    let rest ← gather f as
    return first ++ rest

namespace ArgSpec

/-- A bound that is broken. The value is compared with the bound as it was declared; what is
reported is the nearest double. -/
def boundDefects (broken : Number → Bool) (defect : Binary64 → Defect) :
    Option Number → Except ConversionFault (List Defect)
  | none => .ok []
  | some bound => if broken bound then (fun x => [defect x]) <$> bound.toFloat else .ok []

def valueDefects (spec : ArgSpec) (v : Scalar) : Except ConversionFault (List Defect) :=
  match v.number? with
  | none => .ok [.noNumber spec.key]
  | some n => do
    let x ← n.toFloat
    let low ← boundDefects (fun bound => x.place.lt bound.place) (.below spec.key) spec.min
    let high ← boundDefects (fun bound => bound.place.lt x.place) (.above spec.key) spec.max
    return low ++ high

/-- An optional argument is never looked at, and only numbers are looked into. -/
def defects (args : List (String × Scalar)) (spec : ArgSpec) :
    Except ConversionFault (List Defect) :=
  if spec.optional then .ok []
  else match args.lookup spec.key with
    | none => .ok [.missingArg spec.key]
    | some v => if spec.kind = .number then spec.valueDefects v else .ok []

end ArgSpec

/-- The modes a first rule may have. -/
def ruleModes : List String := [signalMode, "Value"]

/-- The first rule must be complete. Nothing is asked of the second one. -/
def RuleFields.defects (r : RuleFields) : List Defect :=
  (match given? r.mode1 with
    | none => [.noMode]
    | some mode => if mode ∈ ruleModes then [] else [.otherMode]) ++
  (if (given? r.operation1).isNone then [.noOperation] else []) ++
  (if (given? r.crossOp).isNone then [.noCrossOp] else [])

/-- What a signal lacks to be run as this capability. More children than required are let
through. -/
def Capability.defects (c : Capability) (args : List (String × Scalar)) (children : Nat)
    (rule : RuleFields) : Except ConversionFault (List Defect) := do
  let argDefects ← gather (ArgSpec.defects args) c.requiredArgs
  return argDefects ++
    (if children < c.requiredChildren then [.fewChildren c.requiredChildren children] else []) ++
    (if c.isParametric then rule.defects else [])

end TradingSignals
