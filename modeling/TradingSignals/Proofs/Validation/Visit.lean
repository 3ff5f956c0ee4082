import Mathlib.Data.List.Basic
import TradingSignals.Proofs.Strategy.Position
import TradingSignals.Validation.Finding

namespace TradingSignals

namespace SignalNode

/-- Whether there is a signal at a position whose id is known. -/
def knownAt (catalog : Catalog) (n : SignalNode) (p : List Nat) : Bool :=
  (n.subtree? p).any fun m => (catalog.lookup m.catalogId).isSome

/-- All signals above the position are known. Nothing is said of the signal that stands there. -/
def Visited (catalog : Catalog) (n : SignalNode) (p : List Nat) : Prop :=
  ∀ k < p.length, n.knownAt catalog (p.take k)

instance (catalog : Catalog) (n : SignalNode) (p : List Nat) : Decidable (n.Visited catalog p) :=
  inferInstanceAs (Decidable (∀ k < p.length, n.knownAt catalog (p.take k)))

/-- The positions that are looked at, in order. -/
def visits (catalog : Catalog) (n : SignalNode) : List (List Nat) :=
  n.positions.filter (n.Visited catalog ·)

/-- The signal at a position is run as a capability, and so is each above it as one of its own. -/
structure RunsAs (catalog : Catalog) (n : SignalNode) (p : List Nat) (m : SignalNode)
    (c : Capability) : Prop where
  visited : n.Visited catalog p
  found : n.subtree? p = some m
  known : catalog.lookup m.catalogId = some c

section

variable {catalog : Catalog} {id : String} {args : List (String × Scalar)}
  {children : List SignalNode} {rule : RuleFields}

theorem knownAt_iff {n : SignalNode} {p : List Nat} :
    n.knownAt catalog p ↔
      ∃ m c, n.subtree? p = some m ∧ catalog.lookup m.catalogId = some c := by
  simp only [knownAt, Option.any_eq_true, Option.isSome_iff_exists]
  exact ⟨fun ⟨m, hm, c, hc⟩ => ⟨m, c, hm, hc⟩, fun ⟨m, c, hm, hc⟩ => ⟨m, hm, c, hc⟩⟩

theorem visited_nil {n : SignalNode} : n.Visited catalog [] := fun _ h => nomatch h

theorem visited_cons {n : SignalNode} {i : Nat} {p : List Nat} (hn : children[i]? = some n) :
    (mk id args children rule).Visited catalog (i :: p) ↔
      (catalog.lookup id).isSome ∧ n.Visited catalog p := by
  have hk : ∀ q, (mk id args children rule).knownAt catalog (i :: q) = n.knownAt catalog q := by
    intro q
    rw [knownAt, subtree?_cons, hn]
    rfl
  simp only [Visited, List.length_cons, Nat.forall_lt_succ_left, List.take_succ_cons, hk]
  rfl

/-- The proper prefixes of a position are what it is taken from step by step. -/
theorem visited_iff {n : SignalNode} {p : List Nat} :
    n.Visited catalog p ↔ ∀ q, q <+: p → q ≠ p →
      ∃ m c, n.subtree? q = some m ∧ catalog.lookup m.catalogId = some c := by
  constructor
  · intro h q hq hne
    have hl : q.length < p.length :=
      Nat.lt_of_le_of_ne hq.length_le fun he => hne (hq.eq_of_length he)
    have hk := h q.length hl
    rwa [← List.prefix_iff_eq_take.1 hq, knownAt_iff] at hk
  · intro h k hk
    refine knownAt_iff.2 (h _ (List.take_prefix k p) fun he => ?_)
    have := congrArg List.length he
    rw [List.length_take] at this
    omega

theorem mem_visits {n : SignalNode} {p : List Nat} :
    p ∈ n.visits catalog ↔ (∃ m, n.subtree? p = some m) ∧ n.Visited catalog p := by
  rw [visits, List.mem_filter, mem_positions, decide_eq_true_iff]

theorem visits_ascend (n : SignalNode) : (n.visits catalog).Pairwise (List.Lex (· < ·)) :=
  n.positions_ascend.filter _

theorem visits_of_unknown (h : catalog.lookup id = none) :
    (mk id args children rule).visits catalog = [[]] := by
  rw [visits, positions_mk, List.filter_cons_of_pos (by simpa using visited_nil),
    List.filter_eq_nil_iff.2]
  intro p hp
  simp only [List.mem_flatMap, List.mem_map] at hp
  obtain ⟨⟨n, i⟩, hn, q, -, rfl⟩ := hp
  rw [decide_eq_true_iff, visited_cons (List.mem_zipIdx_iff_getElem?.1 hn), h]
  exact fun hv => nomatch hv.1

theorem visits_of_known {c : Capability} (h : catalog.lookup id = some c) :
    (mk id args children rule).visits catalog =
      [] :: children.zipIdx.flatMap fun x => (x.1.visits catalog).map (x.2 :: ·) := by
  rw [visits, positions_mk, List.filter_cons_of_pos (by simpa using visited_nil),
    List.filter_flatMap]
  congr 1
  refine List.flatMap_congr fun x hx => ?_
  rw [visits, List.filter_map]
  congr 1
  refine List.filter_congr fun q _ => ?_
  simp only [Function.comp, visited_cons (List.mem_zipIdx_iff_getElem?.1 hx), h,
    Option.isSome_some, true_and]

theorem runsAs_nil {n : SignalNode} {m : SignalNode} {c : Capability} :
    n.RunsAs catalog [] m c ↔ m = n ∧ catalog.lookup m.catalogId = some c := by
  constructor
  · intro h
    obtain ⟨-, hm, hc⟩ := h
    rw [subtree?_nil, Option.some.injEq] at hm
    exact ⟨hm.symm, hc⟩
  · intro h
    obtain ⟨rfl, hc⟩ := h
    exact ⟨visited_nil, subtree?_nil _, hc⟩

theorem runsAs_cons {i : Nat} {p : List Nat} {m : SignalNode} {c : Capability} :
    (mk id args children rule).RunsAs catalog (i :: p) m c ↔
      (catalog.lookup id).isSome ∧ ∃ n, children[i]? = some n ∧ n.RunsAs catalog p m c := by
  constructor
  · intro h
    obtain ⟨hv, hm, hc⟩ := h
    obtain ⟨n, hn, hm⟩ := subtree?_cons_eq_some.1 hm
    obtain ⟨hk, hv⟩ := (visited_cons hn).1 hv
    exact ⟨hk, n, hn, hv, hm, hc⟩
  · intro h
    obtain ⟨hk, n, hn, hv, hm, hc⟩ := h
    exact ⟨(visited_cons hn).2 ⟨hk, hv⟩, subtree?_cons_eq_some.2 ⟨n, hn, hm⟩, hc⟩

end

end SignalNode

end TradingSignals
