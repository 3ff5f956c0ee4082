import Mathlib.Data.List.Basic
import TradingSignals.Proofs.Signal.Compilation

namespace TradingSignals

/-- A signal without those below it. -/
def SignalNode.alone (n : SignalNode) : SignalNode := { n with children := [] }

def CompiledSignal.alone (s : CompiledSignal) : CompiledSignal := { s with children := none }

/-- The tree with another one in place of the subtree at a position. A position outside of the tree
leaves it as it is. -/
def SignalNode.replaceAt : SignalNode → List Nat → SignalNode → SignalNode
  | _, [], new => new
  | .mk id args children rule, i :: p, new =>
    .mk id args (children.modify i fun n => n.replaceAt p new) rule

/-- The same for a compiled signal, its positions being counted in the same way. -/
def CompiledSignal.replaceAt : CompiledSignal → List Nat → CompiledSignal → CompiledSignal
  | _, [], new => new
  | s, i :: p, new =>
    { s with children := s.children.map fun signals => signals.modify i (·.replaceAt p new) }

mutual

/-- The positions of a compiled signal, every signal before its children. -/
def CompiledSignal.positions : CompiledSignal → List (List Nat)
  | .mk _ _ _ _ children _ _ _ _ => [] :: positionsBelow children

def positionsBelow : Option (List CompiledSignal) → List (List Nat)
  | none => []
  | some signals => signalPositions 0 signals

def signalPositions : Nat → List CompiledSignal → List (List Nat)
  | _, [] => []
  | i, s :: signals => s.positions.map (i :: ·) ++ signalPositions (i + 1) signals

end

theorem CompiledSignal.positions_eq {s : CompiledSignal} :
    s.positions = [] :: signalPositions 0 (s.children.getD []) := by
  obtain ⟨signalType, key, typeCode, args, children, rule, marketNumber, required, symbol⟩ := s
  rw [positions]
  cases children with
  | none => rfl
  | some signals => rfl

namespace SignalNode

variable {catalog : Catalog} {n : SignalNode} {s : CompiledSignal}

theorem signalPositions_of_compiled {nodes : List SignalNode} {signals : List CompiledSignal}
    (h : List.Forall₂ (fun n s => s.positions = n.positions) nodes signals) (i : Nat) :
    signalPositions i signals = childPositions i nodes := by
  induction h generalizing i with
  | nil => rfl
  | cons hs _ ih => rw [signalPositions, childPositions, hs, ih]

/-- The compiled tree has the positions of the tree, in the same order. -/
theorem positions_of_compile (h : n.compile catalog = .ok s) : s.positions = n.positions := by
  induction n using SignalNode.induct generalizing s with
  | node id args children rule ih =>
    have hc := compileSignals_eq_ok_iff.1 (compileSignals_of_compile h)
    have hp := signalPositions_of_compiled (forall₂_imp hc fun n hn t ht => ih n hn ht) 0
    rw [CompiledSignal.positions_eq, positions, hp]

/-- A signal alone is compiled to what its tree is compiled to alone. -/
theorem compile_alone (h : n.compile catalog = .ok s) : n.alone.compile catalog = .ok s.alone := by
  obtain ⟨id, args, children, rule⟩ := n
  obtain ⟨c, own, below, hl, ho, -, rfl⟩ := compile_eq_ok_iff.1 h
  exact compile_eq_ok_iff.2 ⟨c, own, [], hl, ho, rfl, rfl⟩

/-- One tree of a list is compiled to something else, and only its place in the list shows it. -/
theorem compileSignals_modify {nodes : List SignalNode} {signals : List CompiledSignal} {i : Nat}
    {k : SignalNode} {f : SignalNode → SignalNode}
    {g : CompiledSignal → CompiledSignal → CompiledSignal}
    {r : Except CompileFault CompiledSignal}
    (h : compileSignals catalog nodes = .ok signals) (hi : nodes[i]? = some k)
    (hk : ∀ t, k.compile catalog = .ok t → (f k).compile catalog = g t <$> r) :
    compileSignals catalog (nodes.modify i f) = (fun u => signals.modify i (g · u)) <$> r := by
  induction nodes generalizing signals i with
  | nil => cases hi
  | cons n nodes ih =>
    rw [compileSignals] at h
    obtain ⟨first, hf, h⟩ := bind_eq_ok_iff.1 h
    obtain ⟨rest, hr, h⟩ := bind_eq_ok_iff.1 h
    cases h
    cases i with
    | zero =>
      cases hi
      rw [List.modify_zero_cons, compileSignals, hk first hf, hr]
      cases r with
      | error fault => rfl
      | ok u => rfl
    | succ i =>
      rw [List.modify_succ_cons, compileSignals, hf, ih hr hi]
      cases r with
      | error fault => rfl
      | ok u => rfl

/-- Another subtree is compiled in the place of the old one, and the rest of the tree stays. -/
theorem compile_replaceAt {p : List Nat} {m : SignalNode} (h : n.compile catalog = .ok s)
    (hm : n.subtree? p = some m) (new : SignalNode) :
    (n.replaceAt p new).compile catalog = (s.replaceAt p ·) <$> new.compile catalog := by
  induction p generalizing n s with
  | nil =>
    have hs : (s.replaceAt []) = fun u => u := rfl
    rw [replaceAt, hs]
    cases new.compile catalog with
    | error fault => rfl
    | ok u => rfl
  | cons i p ih =>
    obtain ⟨id, args, children, rule⟩ := n
    obtain ⟨k, hi, hm⟩ := subtree?_cons_eq_some.1 hm
    obtain ⟨c, own, below, hl, ho, hb, rfl⟩ := compile_eq_ok_iff.1 h
    have hbelow := compileSignals_modify (f := fun n => n.replaceAt p new)
      (g := fun t u => t.replaceAt p u) hb hi fun t ht => ih ht hm
    have hchildren : children.isEmpty = false := by
      cases children with
      | nil => cases hi
      | cons n nodes => rfl
    have hmodify : (children.modify i fun n => n.replaceAt p new).isEmpty = false := by
      rw [List.isEmpty_eq_false_iff, ne_eq, List.modify_eq_nil_iff]
      exact List.isEmpty_eq_false_iff.1 hchildren
    rw [replaceAt, compile, hl]
    simp only [ho, hbelow, hchildren, hmodify]
    cases new.compile catalog with
    | error fault => rfl
    | ok u => rfl

end SignalNode

end TradingSignals
