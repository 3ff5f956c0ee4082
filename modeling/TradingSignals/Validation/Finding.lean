import TradingSignals.Catalog.Catalog
import TradingSignals.Validation.Defect

namespace TradingSignals

/-- A defect of the signal that stands at a position of a tree: the child to go to at each step
from the root. -/
structure Finding where
  position : List Nat
  id : String
  defect : Defect
  deriving DecidableEq

def Finding.under (i : Nat) (f : Finding) : Finding := { f with position := i :: f.position }

mutual

/-- Everything wrong with a tree, every signal before its children. Below an id that is not
known nothing can be checked. -/
def SignalNode.findings (catalog : Catalog) :
    SignalNode → Except ConversionFault (List Finding)
  | .mk id args children rule =>
    match catalog.lookup id with
    | none => .ok [⟨[], id, .unknownSignal⟩]
    | some c => do
      let own ← c.defects args children.length rule
      let below ← childFindings catalog 0 children
      return own.map (⟨[], id, ·⟩) ++ below

def childFindings (catalog : Catalog) :
    Nat → List SignalNode → Except ConversionFault (List Finding)
  | _, [] => .ok []
  | i, n :: nodes => do
    let first ← n.findings catalog
    let rest ← childFindings catalog (i + 1) nodes
    return first.map (·.under i) ++ rest

end

/-- The path from the list a tree stands in to the signal at a position. -/
def nodePath (list : SignalList) (position : List Nat) : String :=
  list.name ++
    String.join (position.map fun i => ".Children[" ++ String.ofList (natText i) ++ "]")

def Finding.toProblem (list : SignalList) (f : Finding) : Problem where
  path := nodePath list f.position ++ f.defect.part.path
  message := f.defect.message f.id
  kind := f.defect.kind

def SignalNode.problems (catalog : Catalog) (list : SignalList) (n : SignalNode) :
    Except ConversionFault (List Problem) :=
  (·.map (Finding.toProblem list)) <$> n.findings catalog

/-- Every problem of a document, in the order of its parts. Only a number too large for a double
keeps it from being checked. -/
def StrategyDocument.problems (catalog : Catalog) (d : StrategyDocument) :
    Except ConversionFault (List Problem) :=
  let version : List Problem :=
    if d.version = currentVersion then [] else [⟨"Version", "Unsupported IR version", .schema⟩]
  match d.strategy with
  | none => .ok (version ++ [⟨"Strategy", "Strategy is required", .schema⟩])
  | some s => do
    let entry ← gather (SignalNode.problems catalog .entry) s.entrySignals
    let exit ← gather (SignalNode.problems catalog .exit) s.exitSignals
    return version ++ entry ++ exit

end TradingSignals
