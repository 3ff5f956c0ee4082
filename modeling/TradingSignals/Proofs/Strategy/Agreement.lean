import Mathlib.Data.List.Perm.Subperm
import TradingSignals.Proofs.Catalog.Bounds
import TradingSignals.Proofs.Number.Place
import TradingSignals.Proofs.Related
import TradingSignals.Proofs.Strategy.RoundTrip

namespace TradingSignals

/-- Two doubles that lie at the same place: equal ones, the two zeros among them, or two that are
no numbers. -/
def Binary64.Alike (x y : Binary64) : Prop := x.place = y.place

namespace Number

variable {v w : Int} {m n : Number}

theorem toFloat_of_place {x : Binary64} (h : x.place = (int v).place) :
    ∃ y, (int v).toFloat = .ok y ∧ y.Alike x := by
  obtain ⟨hfinite, hplace⟩ := Binary64.ofInt_of_place h
  exact ⟨.ofInt v, toFloat_of_converts hfinite, hplace.trans h.symm⟩

theorem int_eq_of_place (h : (int v).place = (int w).place) : v = w := by
  have hp : (Binary64.one : Int) ≠ 0 := Int.natCast_ne_zero.2 (Nat.ne_of_gt Binary64.one_pos)
  exact Int.eq_of_mul_eq_mul_right hp (Place.point.inj h)

/-- Equal numbers are converted alike, however they are written. -/
theorem toFloat_agree (h : m.place = n.place) : Agree Binary64.Alike m.toFloat n.toFloat := by
  cases m with
  | int v =>
    cases n with
    | int w =>
      obtain rfl := int_eq_of_place h
      cases (int v).toFloat with
      | ok x => exact .ok rfl
      | error fault => exact .error fault
    | float y =>
      obtain ⟨x, hx, ha⟩ := toFloat_of_place h.symm
      rw [hx]
      exact .ok ha
  | float x =>
    cases n with
    | int w =>
      obtain ⟨y, hy, ha⟩ := toFloat_of_place h
      rw [hy]
      exact .ok ha.symm
    | float y => exact .ok h

def shown : Number → String
  | .int v => String.ofList (intText v)
  | .float x => x.shown

/-- A whole number shows no fraction, whether it is written with one or not. -/
theorem shown_eq_of_place (h : m.place = n.place) : m.shown = n.shown := by
  cases m with
  | int v =>
    cases n with
    | int w =>
      obtain rfl := int_eq_of_place h
      rfl
    | float y => exact (Binary64.shown_of_place h.symm).symm
  | float x =>
    cases n with
    | int w => exact Binary64.shown_of_place h
    | float y => exact Binary64.shown_eq_of_place h

end Number

namespace Scalar

variable {x y : Scalar}

/-- Two numbers at the same place, or one thing that is no number. -/
theorem same_cases (h : x.same y) :
    x = y ∨ ∃ m n, x.number? = some m ∧ y.number? = some n ∧ m.place = n.place := by
  cases x with
  | int v =>
    cases y with
    | int w => exact Or.inr ⟨_, _, rfl, rfl, Place.eq_of_same h⟩
    | float y => exact Or.inr ⟨_, _, rfl, rfl, Place.eq_of_same h⟩
    | _ => cases h
  | float x =>
    cases y with
    | int w => exact Or.inr ⟨_, _, rfl, rfl, Place.eq_of_same h⟩
    | float y => exact Or.inr ⟨_, _, rfl, rfl, Place.eq_of_same h⟩
    | _ => cases h
  | text s =>
    cases y with
    | text t => exact Or.inl (congrArg text (beq_iff_eq.1 h))
    | _ => cases h
  | flag b =>
    cases y with
    | flag c => exact Or.inl (congrArg flag (beq_iff_eq.1 h))
    | _ => cases h

theorem number?_rel (h : x.same y) :
    Option.Rel (fun m n => m.place = n.place) x.number? y.number? := by
  rcases same_cases h with rfl | ⟨m, n, hm, hn, hp⟩
  · cases x.number? with
    | none => exact .none
    | some m => exact .some rfl
  · rw [hm, hn]
    exact .some hp

theorem toFloat_agree (h : x.same y) : Agree Binary64.Alike x.toFloat y.toFloat := by
  rcases same_cases h with rfl | ⟨m, n, hm, hn, hp⟩
  · cases x.toFloat with
    | ok z => exact .ok rfl
    | error fault => exact .error fault
  · rw [toFloat_of_number hm, toFloat_of_number hn]
    exact Number.toFloat_agree hp

theorem shown_of_number {m : Number} (h : x.number? = some m) : x.shown = m.shown := by
  cases x with
  | int v =>
    cases h
    rfl
  | float x =>
    cases h
    rfl
  | _ => cases h

theorem shown_eq_of_same (h : x.same y) : x.shown = y.shown := by
  rcases same_cases h with rfl | ⟨m, n, hm, hn, hp⟩
  · rfl
  · rw [shown_of_number hm, shown_of_number hn, Number.shown_eq_of_place hp]

end Scalar

section

variable {args args' : List (String × Scalar)} (h : sameArgs args args')
include h

theorem exists_same_of_mem {e : String × Scalar} (he : e ∈ args) :
    ∃ x, args'.lookup e.1 = some x ∧ e.2.same x := by
  rw [sameArgs, Bool.and_eq_true, List.all_eq_true] at h
  have hone := h.2 e he
  cases hx : args'.lookup e.1 with
  | none =>
    rw [hx] at hone
    cases hone
  | some x =>
    rw [hx] at hone
    exact ⟨x, rfl, hone⟩

theorem length_eq_of_sameArgs : args.length = args'.length := by
  rw [sameArgs, Bool.and_eq_true, beq_iff_eq] at h
  exact h.1

theorem isEmpty_eq_of_sameArgs : args.isEmpty = args'.isEmpty := by
  rw [Bool.eq_iff_iff, List.isEmpty_iff, List.isEmpty_iff, ← List.length_eq_zero_iff,
    ← List.length_eq_zero_iff, length_eq_of_sameArgs h]

variable (hk : (args.map Prod.fst).Nodup)
include hk

/-- As many keys, all of which are among the others, are the same ones. -/
theorem keys_perm_of_sameArgs : (args.map Prod.fst).Perm (args'.map Prod.fst) := by
  have hsub : args.map Prod.fst ⊆ args'.map Prod.fst := by
    intro key hkey
    obtain ⟨e, he, rfl⟩ := List.mem_map.1 hkey
    obtain ⟨x, hx, -⟩ := exists_same_of_mem h he
    exact List.mem_map.2 ⟨_, mem_of_lookup hx, rfl⟩
  apply (List.Nodup.subperm hk hsub).perm_of_length_le
  rw [List.length_map, List.length_map, length_eq_of_sameArgs h]

/-- The same arguments give every key the same value or none, in whatever order they stand. -/
theorem lookup_rel (key : String) :
    Option.Rel (fun x y : Scalar => x.same y) (args.lookup key) (args'.lookup key) := by
  cases hv : args.lookup key with
  | some v =>
    obtain ⟨x, hx, hs⟩ := exists_same_of_mem h (mem_of_lookup hv)
    rw [hx]
    exact .some hs
  | none =>
    cases hx : args'.lookup key with
    | none => exact .none
    | some x =>
      have hkey : key ∈ args'.map Prod.fst := List.mem_map.2 ⟨_, mem_of_lookup hx, rfl⟩
      obtain ⟨e, he, rfl⟩ := List.mem_map.1 ((keys_perm_of_sameArgs h hk).mem_iff.2 hkey)
      rw [lookup_of_mem hk he] at hv
      cases hv

end

theorem sameSignals_iff {nodes more : List SignalNode} :
    sameSignals nodes more ↔ List.Forall₂ (fun n m => n.same m) nodes more := by
  induction nodes generalizing more with
  | nil => cases more <;> simp [sameSignals]
  | cons n nodes ih => cases more <;> simp [sameSignals, ih]

theorem SignalNode.same_mk {id id' : String} {args args' : List (String × Scalar)}
    {children children' : List SignalNode} {rule rule' : RuleFields} :
    (mk id args children rule).same (mk id' args' children' rule') ↔
      id = id' ∧ sameArgs args args' ∧ rule = rule' ∧
        List.Forall₂ (fun n m => n.same m) children children' := by
  simp only [same, Bool.and_eq_true, beq_iff_eq, sameSignals_iff, and_assoc]

theorem rel_of_sameOption {α : Type} {same : α → α → Bool} {o o' : Option α}
    (h : sameOption same o o') : Option.Rel (fun a b => same a b) o o' := by
  cases o <;> cases o' <;> first | exact .none | exact .some h | cases h

namespace StrategyDocument

variable {d e : StrategyDocument} (h : d.same e)
include h

theorem version_eq_of_same : d.version = e.version := by
  rw [same, Bool.and_eq_true, beq_iff_eq] at h
  exact h.1

theorem strategy_rel_of_same :
    Option.Rel (fun s t : Strategy => s.same t) d.strategy e.strategy := by
  rw [same, Bool.and_eq_true] at h
  exact rel_of_sameOption h.2

theorem signals_of_same (list : SignalList) :
    List.Forall₂ (fun n m => n.same m) (d.signals list) (e.signals list) := by
  have hs := strategy_rel_of_same h
  unfold signals
  generalize d.strategy = o, e.strategy = o' at hs
  cases hs with
  | none => exact .nil
  | some hs =>
    rw [Strategy.same] at hs
    simp only [Bool.and_eq_true] at hs
    cases list with
    | entry => exact sameSignals_iff.1 hs.1.1.1
    | exit => exact sameSignals_iff.1 hs.1.1.2

theorem question_eq_of_same :
    (d.strategy.bind fun s => given? s.clarificationRequest) =
      e.strategy.bind fun s => given? s.clarificationRequest := by
  have hs := strategy_rel_of_same h
  generalize d.strategy = o, e.strategy = o' at hs
  cases hs with
  | none => rfl
  | some hs =>
    rw [Strategy.same] at hs
    simp only [Bool.and_eq_true, beq_iff_eq] at hs
    exact congrArg given? hs.2

end StrategyDocument

end TradingSignals
