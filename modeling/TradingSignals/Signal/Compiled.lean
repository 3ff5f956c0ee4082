import TradingSignals.Strategy.Sameness

namespace TradingSignals

/-- An argument as the execution system takes it, with the range it may be varied in. -/
structure CompiledArg where
  key : String
  value : Binary64
  baseValue : Binary64
  base : Binary64
  last : Binary64
  min : Binary64
  max : Binary64
  step : Binary64 := .ofInt 0
  type : Int := 0
  valueType : Int := 0
  deriving DecidableEq

/-- The instrument that a signal reads. -/
structure SymbolRef where
  fn : Option String := none
  genMode : Int := 0
  id : Option String := none
  isSs : Bool := false
  name : String := "@ES"
  shift : Int := 0
  timeframe : String := "1D"
  var : Option String := none
  deriving DecidableEq

/-- The rule fields of a signal; a signal is parametric when the first mode is there. -/
structure CompiledRule where
  mode1 : Option Int := none
  operation1 : Option String := none
  crossOp : Option Int := none
  mode2 : Option Int := none
  operation2 : Option String := none
  entry : Option Bool := none
  exit : Option Bool := none
  deriving DecidableEq

/-- A signal as the execution system runs it. -/
structure CompiledSignal where
  signalType : String
  key : String
  typeCode : Int
  args : Option (List CompiledArg) := none
  children : Option (List CompiledSignal) := none
  rule : CompiledRule := {}
  marketNumber : Int := 1
  required : Bool := false
  symbol : SymbolRef := {}

def CompiledSignal.isParametric (s : CompiledSignal) : Bool := s.rule.mode1.isSome

def CompiledArg.same (a b : CompiledArg) : Bool :=
  a.key == b.key && a.value.same b.value && a.baseValue.same b.baseValue &&
    a.base.same b.base && a.last.same b.last && a.min.same b.min && a.max.same b.max &&
    a.step.same b.step && a.type == b.type && a.valueType == b.valueType

def sameCompiledArgs : List CompiledArg → List CompiledArg → Bool
  | [], [] => true
  | a :: as, b :: bs => a.same b && sameCompiledArgs as bs
  | _, _ => false

mutual

/-- The same signal, with doubles compared as numbers. -/
def CompiledSignal.same : CompiledSignal → CompiledSignal → Bool
  | .mk signalType key typeCode args children rule marketNumber required symbol,
    .mk signalType' key' typeCode' args' children' rule' marketNumber' required' symbol' =>
    signalType == signalType' && key == key' && typeCode == typeCode' &&
      sameOption sameCompiledArgs args args' && sameChildren children children' &&
      rule == rule' && marketNumber == marketNumber' && required == required' &&
      symbol == symbol'

def sameChildren : Option (List CompiledSignal) → Option (List CompiledSignal) → Bool
  | none, none => true
  | some signals, some more => sameCompiledSignals signals more
  | _, _ => false

def sameCompiledSignals : List CompiledSignal → List CompiledSignal → Bool
  | [], [] => true
  | s :: signals, t :: more => s.same t && sameCompiledSignals signals more
  | _, _ => false

end

end TradingSignals
