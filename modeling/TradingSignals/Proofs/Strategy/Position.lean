import Mathlib.Data.List.Basic
import TradingSignals.Catalog.Catalog
import TradingSignals.Strategy.Document

namespace TradingSignals

/-- What holds of a signal whenever it holds of its children holds of every tree. -/
theorem SignalNode.induct {motive : SignalNode → Prop}
    (node : ∀ id args children rule, (∀ n ∈ children, motive n) →
      motive (.mk id args children rule)) :
    ∀ n, motive n
  | .mk id args children rule => node id args children rule fun n hn => by
    have := List.sizeOf_lt_of_mem hn
    exact SignalNode.induct node n

/-- The signal at a position of a tree: the child to go to at each step from the root. -/
def SignalNode.subtree? : SignalNode → List Nat → Option SignalNode
  | n, [] => some n
  | .mk _ _ children _, i :: p => children[i]?.bind fun n => n.subtree? p

@[simp] theorem SignalNode.subtree?_nil (n : SignalNode) : n.subtree? [] = some n := by
  cases n
  rfl

@[simp] theorem SignalNode.subtree?_cons {id : String} {args : List (String × Scalar)}
    {children : List SignalNode} {rule : RuleFields} {i : Nat} {p : List Nat} :
    (SignalNode.mk id args children rule).subtree? (i :: p) =
      children[i]?.bind fun n => n.subtree? p := rfl

mutual

/-- The positions of a tree, every signal before its children. -/
def SignalNode.positions : SignalNode → List (List Nat)
  | .mk _ _ children _ => [] :: childPositions 0 children

def childPositions : Nat → List SignalNode → List (List Nat)
  | _, [] => []
  | i, n :: nodes => n.positions.map (i :: ·) ++ childPositions (i + 1) nodes

end

theorem childPositions_eq_flatMap {nodes : List SignalNode} {i : Nat} :
    childPositions i nodes = (nodes.zipIdx i).flatMap fun x => x.1.positions.map (x.2 :: ·) := by
  induction nodes generalizing i with
  | nil => rfl
  | cons n nodes ih => rw [childPositions, ih, List.zipIdx_cons, List.flatMap_cons]

section

variable {id : String} {args : List (String × Scalar)} {children : List SignalNode}
  {rule : RuleFields}

theorem SignalNode.positions_mk :
    (SignalNode.mk id args children rule).positions =
      [] :: children.zipIdx.flatMap fun x => x.1.positions.map (x.2 :: ·) := by
  rw [positions, childPositions_eq_flatMap]

/-- A position below the root belongs to a child. -/
theorem SignalNode.subtree?_cons_eq_some {i : Nat} {p : List Nat} {m : SignalNode} :
    (SignalNode.mk id args children rule).subtree? (i :: p) = some m ↔
      ∃ n, children[i]? = some n ∧ n.subtree? p = some m := by
  rw [subtree?_cons, Option.bind_eq_some_iff]

theorem SignalNode.mem_positions {n : SignalNode} {p : List Nat} :
    p ∈ n.positions ↔ ∃ m, n.subtree? p = some m := by
  induction n using SignalNode.induct generalizing p with
  | node id args children rule ih =>
    rw [positions_mk, List.mem_cons, List.mem_flatMap]
    cases p with
    | nil => simp
    | cons i p =>
      simp only [reduceCtorEq, false_or, List.mem_map, subtree?_cons_eq_some]
      constructor
      · intro h
        obtain ⟨⟨n, j⟩, hn, q, hq, he⟩ := h
        cases he
        have hi := List.mem_zipIdx_iff_getElem?.1 hn
        obtain ⟨m, hm⟩ := (ih n (List.mem_of_getElem? hi)).1 hq
        exact ⟨m, n, hi, hm⟩
      · intro h
        obtain ⟨m, n, hi, hm⟩ := h
        exact ⟨(n, i), List.mem_zipIdx_iff_getElem?.2 hi, p,
          (ih n (List.mem_of_getElem? hi)).2 ⟨m, hm⟩, rfl⟩

end

theorem pairwise_zipIdx_snd {α : Type} {l : List α} {i : Nat} :
    (l.zipIdx i).Pairwise fun x y => x.2 < y.2 := by
  induction l generalizing i with
  | nil => exact .nil
  | cons a l ih => exact .cons (fun x hx => List.le_snd_of_mem_zipIdx hx) ih

/-- The positions ascend: a signal stands before all below it, and what is below an earlier child
before what is below a later one. -/
theorem SignalNode.positions_ascend (n : SignalNode) :
    n.positions.Pairwise (List.Lex (· < ·)) := by
  induction n using SignalNode.induct with
  | node id args children rule ih =>
    rw [positions_mk, List.pairwise_cons, List.pairwise_flatMap]
    -- the root before all, within one child by induction, across children by their index
    refine ⟨?_, ?_, pairwise_zipIdx_snd.imp ?_⟩
    · intro p hp
      simp only [List.mem_flatMap, List.mem_map] at hp
      obtain ⟨x, -, q, -, rfl⟩ := hp
      exact .nil
    · intro x hn
      obtain ⟨n, i⟩ := x
      have hm := List.mem_of_getElem? (List.mem_zipIdx_iff_getElem?.1 hn)
      exact List.pairwise_map.2 ((ih n hm).imp .cons)
    · intro x y hlt p hp q hq
      obtain ⟨p, -, rfl⟩ := List.mem_map.1 hp
      obtain ⟨q, -, rfl⟩ := List.mem_map.1 hq
      exact .rel hlt

/-- The signals of a tree, each before its children. -/
def SignalNode.preorder (n : SignalNode) : List SignalNode := n.positions.filterMap n.subtree?

theorem SignalNode.preorder_mk {id : String} {args : List (String × Scalar)}
    {children : List SignalNode} {rule : RuleFields} :
    (SignalNode.mk id args children rule).preorder =
      .mk id args children rule :: children.flatMap SignalNode.preorder := by
  have hbelow : ∀ x ∈ children.zipIdx, (x.1.positions.map (x.2 :: ·)).filterMap
      (SignalNode.mk id args children rule).subtree? = x.1.preorder := by
    rintro ⟨n, i⟩ hx
    have hi := List.mem_zipIdx_iff_getElem?.1 hx
    simp only [List.filterMap_map, preorder]
    congr 1
    funext p
    rw [Function.comp_apply, subtree?_cons, hi, Option.bind_some]
  calc (SignalNode.mk id args children rule).preorder
      = .mk id args children rule :: children.zipIdx.flatMap fun x =>
          (x.1.positions.map (x.2 :: ·)).filterMap
            (SignalNode.mk id args children rule).subtree? := by
        rw [preorder, positions_mk, List.filterMap_cons_some (subtree?_nil _),
          List.filterMap_flatMap]
    _ = .mk id args children rule :: children.zipIdx.flatMap fun x => x.1.preorder := by
        rw [List.flatMap_congr hbelow]
    _ = .mk id args children rule :: children.flatMap SignalNode.preorder := by
        rw [← List.flatMap_map (f := Prod.fst), List.zipIdx_map_fst]

/-- The trees in one of the two lists. -/
def StrategyDocument.signals (d : StrategyDocument) (list : SignalList) : List SignalNode :=
  match d.strategy with
  | none => []
  | some s => s.signals list

theorem SignalList.forall_iff {P : SignalList → Prop} : (∀ list, P list) ↔ P .entry ∧ P .exit := by
  refine ⟨fun h => ⟨h .entry, h .exit⟩, fun h list => ?_⟩
  cases list with
  | entry => exact h.1
  | exit => exact h.2

instance {P : SignalList → Prop} [DecidablePred P] : Decidable (∀ list, P list) :=
  decidable_of_iff (P .entry ∧ P .exit) SignalList.forall_iff.symm

/-- A document with one tree to enter by. -/
def StrategyDocument.single (n : SignalNode) : StrategyDocument :=
  { strategy := some { entrySignals := [n] } }

end TradingSignals
