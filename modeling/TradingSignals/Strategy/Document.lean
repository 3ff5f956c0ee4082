import TradingSignals.Strategy.Scalar

namespace TradingSignals

/-- A field that is given and not empty. -/
def given? (field : Option String) : Option String := field.filter (· != "")

/-- The mode of a rule that compares with a signal; all others compare with a value. -/
def signalMode : String := "Signal"

/-- The operators of a rule. Only signals of the parametric type use them. -/
structure RuleFields where
  mode1 : Option String := none
  operation1 : Option String := none
  crossOp : Option String := none
  mode2 : Option String := none
  operation2 : Option String := none
  deriving DecidableEq

/-- A signal and the signals it is computed from, which take their roles by position. -/
structure SignalNode where
  catalogId : String := ""
  args : List (String × Scalar) := []
  children : List SignalNode := []
  rule : RuleFields := {}

/-- What the strategy trades; handed on as it is. -/
structure Settings where
  symbol : Option String := none
  timeframe : Option String := none
  startDate : Option String := none
  endDate : Option String := none
  positionSize : Option Binary64 := none
  maxPositions : Option Int := none
  maxHoldDays : Option Int := none
  entryMode : Option String := none
  exitMode : Option String := none
  deriving DecidableEq

/-- A strategy, or the question that has to be answered before there can be one. -/
structure Strategy where
  entrySignals : List SignalNode := []
  exitSignals : List SignalNode := []
  settings : Option Settings := none
  clarificationRequest : Option String := none

/-- The version that documents are written in now. -/
def currentVersion : String := "1.0"

/-- A strategy with the version it is written in, which may be any text. -/
structure StrategyDocument where
  version : String := currentVersion
  strategy : Option Strategy := none

/-- The two lists of trees in a strategy. -/
inductive SignalList where
  | entry
  | exit
  deriving DecidableEq

def SignalList.name : SignalList → String
  | .entry => "EntrySignals"
  | .exit => "ExitSignals"

def Strategy.signals (s : Strategy) : SignalList → List SignalNode
  | .entry => s.entrySignals
  | .exit => s.exitSignals

/-- How many levels of signals can be taken from a body or be written. -/
def maxLevels : Nat := 254

mutual

/-- The levels of a tree, the root included. -/
def SignalNode.height : SignalNode → Nat
  | .mk _ _ children _ => forestHeight children + 1

def forestHeight : List SignalNode → Nat
  | [] => 0
  | n :: nodes => max n.height (forestHeight nodes)

end

def StrategyDocument.height (d : StrategyDocument) : Nat :=
  match d.strategy with
  | none => 0
  | some s => max (forestHeight s.entrySignals) (forestHeight s.exitSignals)

end TradingSignals
