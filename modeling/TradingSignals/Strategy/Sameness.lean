import TradingSignals.Strategy.Document

namespace TradingSignals

/-- Two absent values are the same, and so are two present ones that `same` holds of. -/
def sameOption {α : Type} (same : α → α → Bool) : Option α → Option α → Bool
  | none, none => true
  | some a, some b => same a b
  | _, _ => false

/-- The same keys with the same values, in any order; in each list a key stands once. -/
def sameArgs (a b : List (String × Scalar)) : Bool :=
  a.length == b.length && a.all fun e => match b.lookup e.1 with
    | some x => e.2.same x
    | none => false

mutual

/-- The same tree: what is told apart is only what a signal computes, not how its arguments are
ordered or its numbers are written. -/
def SignalNode.same : SignalNode → SignalNode → Bool
  | .mk id args children rule, .mk id' args' children' rule' =>
    id == id' && sameArgs args args' && rule == rule' && sameSignals children children'

def sameSignals : List SignalNode → List SignalNode → Bool
  | [], [] => true
  | n :: nodes, m :: more => n.same m && sameSignals nodes more
  | _, _ => false

end

def Settings.same (s t : Settings) : Bool :=
  sameOption Binary64.same s.positionSize t.positionSize &&
    { s with positionSize := none } == { t with positionSize := none }

def Strategy.same (s t : Strategy) : Bool :=
  sameSignals s.entrySignals t.entrySignals && sameSignals s.exitSignals t.exitSignals &&
    sameOption Settings.same s.settings t.settings &&
    s.clarificationRequest == t.clarificationRequest

def StrategyDocument.same (d e : StrategyDocument) : Bool :=
  d.version == e.version && sameOption Strategy.same d.strategy e.strategy

end TradingSignals
