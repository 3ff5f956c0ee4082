import TradingSignals.Catalog.BuiltIn
import TradingSignals.Proofs.Catalog.Bounds
import TradingSignals.Proofs.Validation.Report

namespace TradingSignals

/-- With bounds among the doubles, only the value itself can be too large. -/
theorem ArgSpec.checkable_iff {spec : ArgSpec} {args : List (String × Scalar)}
    (hb : spec.BoundsConvert) :
    spec.Checkable args ↔
      ∀ v, spec.checked? args = some (.int v) → v.natAbs < Binary64.wholeBound := by
  constructor
  · intro h v hv
    have hn : spec.number? args = some (.int v) := by rw [number?, hv]; rfl
    exact Number.converts_int.1 (h.value (.int v) hn)
  · intro h
    refine ⟨fun n hn => ?_, fun bound hm => ?_, fun bound hm => ?_⟩
    · obtain ⟨v, hv, hn⟩ := Option.bind_eq_some_iff.1 hn
      cases v with
      | int v =>
        cases hn
        exact Number.converts_int.2 (h v hv)
      | float x =>
        cases hn
        rfl
      | text s => cases hn
      | flag b => cases hn
    · exact hb.min (Option.filter_eq_some_iff.1 hm).1
    · exact hb.max (Option.filter_eq_some_iff.1 hm).1

namespace SignalNode

/-- All numbers that are given in a tree have a nearest double. -/
def NumbersConvert (n : SignalNode) : Prop :=
  ∀ p ∈ n.positions, ∀ m ∈ n.subtree? p, ∀ arg ∈ m.args, ∀ k ∈ arg.2.number?, k.converts

instance (n : SignalNode) : Decidable n.NumbersConvert :=
  inferInstanceAs (Decidable (∀ p ∈ n.positions, ∀ m ∈ n.subtree? p, ∀ arg ∈ m.args,
    ∀ k ∈ arg.2.number?, k.converts))

theorem NumbersConvert.checked {n m : SignalNode} (h : n.NumbersConvert) {p : List Nat}
    (hm : n.subtree? p = some m) {spec : ArgSpec} {v : Int}
    (hv : spec.checked? m.args = some (.int v)) : v.natAbs < Binary64.wholeBound := by
  have hl : m.args.lookup spec.key = some (.int v) := by
    unfold ArgSpec.checked? at hv
    split at hv
    · exact hv
    · cases hv
  have hp : p ∈ n.positions := mem_positions.2 ⟨m, hm⟩
  have hc := h p hp m hm (spec.key, .int v) (mem_of_lookup hl) (.int v) rfl
  exact Number.converts_int.1 hc

theorem NumbersConvert.checkable {catalog : Catalog} {n : SignalNode} (h : n.NumbersConvert)
    (hb : catalog.BoundsConvert) : n.Checkable catalog := by
  intro p m c hr spec hs
  have hc := Catalog.mem_toList_of_lookup hr.known
  apply (ArgSpec.checkable_iff (hb c hc spec hs)).2
  intro v hv
  exact h.checked hr.found hv

end SignalNode

namespace StrategyDocument

/-- The whole numbers that are looked into lie among the doubles or are rounded to one: those
given for a number that must be there, wherever the check gets to. -/
def CheckedIntegersConvert (catalog : Catalog) (d : StrategyDocument) : Prop :=
  ∀ list, ∀ n ∈ d.signals list, ∀ p m c, n.RunsAs catalog p m c →
    ∀ spec ∈ c.requiredArgs, ∀ v, spec.checked? m.args = some (.int v) →
      v.natAbs < Binary64.wholeBound

theorem checkable_iff {catalog : Catalog} {d : StrategyDocument} (hb : catalog.BoundsConvert) :
    d.Checkable catalog ↔ d.CheckedIntegersConvert catalog := by
  have hs : ∀ {n : SignalNode} {p m c}, n.RunsAs catalog p m c → ∀ spec ∈ c.requiredArgs,
      (spec.Checkable m.args ↔
        ∀ v, spec.checked? m.args = some (.int v) → v.natAbs < Binary64.wholeBound) := by
    intro n p m c hr spec hm
    have hc := Catalog.mem_toList_of_lookup hr.known
    exact ArgSpec.checkable_iff (hb c hc spec hm)
  constructor
  · intro h list n hn p m c hr spec hm
    exact (hs hr spec hm).1 (h list n hn p m c hr spec hm)
  · intro h list n hn p m c hr spec hm
    exact (hs hr spec hm).2 (h list n hn p m c hr spec hm)

/-- Whole numbers past the doubles are what keeps a document from being checked, and nothing
else does; every other problem is reported. -/
theorem checked_unless_too_large {catalog : Catalog} {d : StrategyDocument}
    (hb : catalog.BoundsConvert) :
    (d.CheckedIntegersConvert catalog → d.problems catalog = .ok (d.report catalog)) ∧
      (¬d.CheckedIntegersConvert catalog → d.problems catalog = .error .tooLarge) := by
  have h := d.problems_settles catalog
  rw [← checkable_iff hb]
  exact ⟨h.ok, h.tooLarge⟩

end StrategyDocument

/-- The average of the closing prices over some bars. -/
def SignalNode.average (length : Scalar) : SignalNode where
  catalogId := "sma"
  args := [("Length", length)]
  children := [{ catalogId := "raw.close" }]

theorem average_checked_unless_too_large :
    Catalog.builtIn.BoundsConvert ∧
      (StrategyDocument.single
        (.average (.int (Binary64.wholeBound - 1 : Nat)))).problems .builtIn = .ok [] ∧
      (StrategyDocument.single
        (.average (.int Binary64.wholeBound))).problems .builtIn = .error .tooLarge := by
  have hb : Catalog.builtIn.BoundsConvert := by decide +kernel
  refine ⟨hb, ?_, ?_⟩
  · have hs := StrategyDocument.problems_settles .builtIn
      (.single (.average (.int (Binary64.wholeBound - 1 : Nat))))
    have hc := (StrategyDocument.checkable_iff hb).1 (hs.succeeds_iff.1 ⟨[], by decide +kernel⟩)
    rw [(StrategyDocument.checked_unless_too_large hb).1 hc]
    decide +kernel
  · apply (StrategyDocument.checked_unless_too_large hb).2
    intro h
    exact absurd ((StrategyDocument.checked_unless_too_large hb).1 h) (by decide +kernel)

/-- A whole number of four hundred digits breaks the check off. -/
theorem average_of_long_length_not_checked :
    Catalog.builtIn.BoundsConvert ∧
      (StrategyDocument.single (.average (.int (Nat.pow 10 400)))).problems .builtIn =
        .error .tooLarge := by
  decide +kernel

end TradingSignals
