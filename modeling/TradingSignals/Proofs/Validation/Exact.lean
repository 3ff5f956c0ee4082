import TradingSignals.Proofs.Validation.Totality

namespace TradingSignals

namespace StrategyDocument

/-- All numbers that are given have a nearest double, wherever they stand. -/
def IntegersConvert (d : StrategyDocument) : Prop :=
  ∀ list, ∀ n ∈ d.signals list, ∀ p ∈ n.positions, ∀ m ∈ n.subtree? p,
    ∀ arg ∈ m.args, ∀ k ∈ arg.2.number?, k.converts

instance (d : StrategyDocument) : Decidable d.IntegersConvert :=
  inferInstanceAs (Decidable (∀ list, ∀ n ∈ d.signals list, ∀ p ∈ n.positions,
    ∀ m ∈ n.subtree? p, ∀ arg ∈ m.args, ∀ k ∈ arg.2.number?, k.converts))

theorem IntegersConvert.checked {catalog : Catalog} {d : StrategyDocument}
    (h : d.IntegersConvert) : d.CheckedIntegersConvert catalog := by
  intro list n hn p m c hr spec hs v hv
  have hnode : n.NumbersConvert := h list n hn
  exact hnode.checked hr.found hv

/-- The problems are those of the parts in order: the version, whether there is a strategy, and
then at each visited position what the signal there lacks. The visited positions of a tree ascend
from its root, and all ids above them are known. -/
theorem problems_exact {catalog : Catalog} {d : StrategyDocument} (hb : catalog.BoundsConvert)
    (hi : d.IntegersConvert) :
    d.problems catalog = .ok (d.report catalog) ∧
      ∀ n : SignalNode, (n.visits catalog).Pairwise (List.Lex (· < ·)) ∧
        ∀ p, p ∈ n.visits catalog ↔ (∃ m, n.subtree? p = some m) ∧
          ∀ q, q <+: p → q ≠ p →
            ∃ m c, n.subtree? q = some m ∧ catalog.lookup m.catalogId = some c := by
  have hc : d.Checkable catalog := (checkable_iff hb).2 hi.checked
  refine ⟨(d.problems_settles catalog).ok hc, ?_⟩
  intro n
  refine ⟨n.visits_ascend, ?_⟩
  intro p
  rw [SignalNode.mem_visits, SignalNode.visited_iff]

end StrategyDocument

/-- Nothing is said of what stands below an unknown signal, but the children of a rule that is
incomplete itself are checked. -/
theorem problems_exact_of_incomplete_rule :
    let d : StrategyDocument :=
      { version := "2.0"
        strategy := some
          { entrySignals :=
              [{ catalogId := "Rule"
                 args := [("Rule1 Base Offset", .text "now")]
                 children := [.average (.int 0),
                   { catalogId := "tide", children := [.average (.int 0)] }, .average (.int 9)]
                 rule := { mode1 := some "Always", crossOp := some "" } }]
            exitSignals := [{ catalogId := "ATR", args := [("Length", .float .nan)] }] } }
    Catalog.builtIn.BoundsConvert ∧ d.IntegersConvert ∧ d.problems .builtIn = .ok
      [⟨"Version", "Unsupported IR version", .schema⟩,
       ⟨"EntrySignals.Args.Rule1 Base Offset",
        "Argument 'Rule1 Base Offset' must be a number for signal 'Rule'", .argumentType⟩,
       ⟨"EntrySignals.Args",
        "Missing required argument 'Rule1 Second Offset' for signal 'Rule'", .missingArgument⟩,
       ⟨"EntrySignals.Rule1Mode",
        "Rule1Mode must be 'Signal' or 'Value' for signal 'Rule'", .parametricField⟩,
       ⟨"EntrySignals.Rule1Operation",
        "Parametric signal 'Rule' requires Rule1Operation", .parametricField⟩,
       ⟨"EntrySignals.CrossOp", "Parametric signal 'Rule' requires CrossOp", .parametricField⟩,
       ⟨"EntrySignals.Children[0].Args.Length",
        "Argument 'Length' must be >= 1 for signal 'sma'", .argumentBound⟩,
       ⟨"EntrySignals.Children[1]", "Unknown signal catalog ID: tide", .unknownCapability⟩,
       ⟨"ExitSignals.Children",
        "Signal 'ATR' requires 2 children, but 0 provided", .childCount⟩] := by
  intro d
  have hb : Catalog.builtIn.BoundsConvert := by decide +kernel
  have hi : d.IntegersConvert := by decide +kernel
  refine ⟨hb, hi, ?_⟩
  rw [(StrategyDocument.problems_exact hb hi).1]
  decide +kernel

end TradingSignals
