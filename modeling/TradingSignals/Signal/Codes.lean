import TradingSignals.Catalog.Capability
import TradingSignals.Strategy.Document

namespace TradingSignals

/-- The number that the execution system knows a type of signals by. -/
def signalTypeCodes : List (String × Int) :=
  [("SignalValueRAW", 2), ("SignalValueSMA", 2), ("SignalValueEMA", 2), ("SignalValueRSI", 2),
   ("SignalValueHighest", 2), ("SignalValueLowest", 2), ("SignalValuePercentChange", 2),
   (parametricType, 7)]

/-- Types without a code of their own are values. -/
def signalTypeCode (signalType : String) : Int := (signalTypeCodes.lookup signalType).getD 2

/-- The operators that join the two rules of a signal. -/
def crossOpCodes : List (String × Int) :=
  [("OFF", 0), ("AND", 1), ("OR", 2), ("XOR", 3), ("IF", 4)]

/-- An operator without a code switches the second rule off. -/
def crossOpCode (operator : String) : Int := (crossOpCodes.lookup operator).getD 0

def ruleModeCode (mode : Option String) : Int := if mode = some signalMode then 0 else 1

/-- The operator of a rule that has none. -/
def defaultOperation : String := "="

def defaultCrossOp : String := "OFF"

end TradingSignals
