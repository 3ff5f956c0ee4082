import TradingSignals.Proofs.Signal.Replacement
import TradingSignals.Proofs.Validation.Agreement
import TradingSignals.Proofs.Validation.Totality

namespace TradingSignals

/-- Another member in the place of one changes what is gathered for it and nothing else. -/
theorem flatMap_zipIdx_modify {α β : Type} {l : List α} {i : Nat} {a : α} (h : l[i]? = some a)
    (f : α → α) (g : α × Nat → List β) :
    (l.modify i f).zipIdx.flatMap g = (l.take i).zipIdx.flatMap g ++ g (f a, i) ++
      ((l.drop (i + 1)).zipIdx (i + 1)).flatMap g := by
  obtain ⟨hi, rfl⟩ := List.getElem?_eq_some_iff.1 h
  have hlen : (l.take i).length = i := List.length_take_of_le (Nat.le_of_lt hi)
  rw [List.modify_eq_take_cons_drop hi, List.zipIdx_append, List.flatMap_append, hlen,
    Nat.zero_add, List.zipIdx_cons, List.flatMap_cons, List.append_assoc]

/-- Only the member that is changed has to be compared. -/
theorem forall₂_modify {α : Type} {r : α → α → Prop} {l : List α} {i : Nat} {f : α → α}
    (hr : ∀ a, r a a) (hf : ∀ a, l[i]? = some a → r (f a) a) : List.Forall₂ r (l.modify i f) l := by
  induction l generalizing i with
  | nil =>
    rw [List.modify_nil]
    exact .nil
  | cons a l ih =>
    cases i with
    | zero => exact .cons (hf a rfl) (List.forall₂_same.2 fun a _ => hr a)
    | succ i => exact .cons (hr a) (ih hf)

/-- What is found in a tree, found in it where it stands at a position of another. -/
def Finding.below (q : List Nat) (f : Finding) : Finding := { f with position := q ++ f.position }

/-- A problem of a tree that stands at a position: the path to the position takes the place of the
name of the list. -/
def Problem.moved (list : SignalList) (q : List Nat) (p : Problem) : Problem :=
  { p with path := nodePath list q ++ String.ofList (p.path.toList.drop list.name.toList.length) }

theorem Finding.toProblem_below (list : SignalList) (q : List Nat) (f : Finding) :
    (f.below q).toProblem list = (f.toProblem list).moved list q := by
  let step := fun i : Nat => ".Children[" ++ String.ofList (natText i) ++ "]"
  have hroot : (f.toProblem list).path =
      list.name ++ (String.join (f.position.map step) ++ f.defect.part.path) := by
    rw [toProblem, nodePath, String.append_assoc]
  have hbelow : ((f.below q).toProblem list).path =
      nodePath list q ++ (String.join (f.position.map step) ++ f.defect.part.path) := by
    rw [toProblem, nodePath, below, List.map_append, String.join_append, nodePath,
      String.append_assoc, String.append_assoc, String.append_assoc]
  rw [Problem.moved, hroot, String.toList_append, List.drop_left, String.ofList_toList, ← hbelow]
  rfl

namespace SignalNode

variable {catalog : Catalog} {n : SignalNode} {q : List Nat}

/-- Nothing is looked at below a signal that is not known. -/
theorem findings_replaceAt_of_hidden (h : ¬n.Visited catalog q) (new : SignalNode) :
    (n.replaceAt q new).findings catalog = n.findings catalog := by
  induction q generalizing n with
  | nil => exact absurd visited_nil h
  | cons i q ih =>
    obtain ⟨id, args, children, rule⟩ := n
    rw [replaceAt, findings, findings]
    cases hl : catalog.lookup id with
    | none => rfl
    | some c =>
      have hbelow : childFindings catalog 0 (children.modify i fun k => k.replaceAt q new) =
          childFindings catalog 0 children := by
        apply childFindings_eq_of_forall₂
        refine forall₂_modify (fun _ => rfl) ?_
        intro k hk
        apply ih
        intro hv
        have hknown : (catalog.lookup id).isSome := by rw [hl]; rfl
        exact h ((visited_cons hk).2 ⟨hknown, hv⟩)
      simp only [hbelow, List.length_modify]

/-- Where a position is visited, one block of what is found belongs to the tree there. -/
theorem allFindings_replaceAt {m : SignalNode} (hv : n.Visited catalog q)
    (hm : n.subtree? q = some m) :
    ∃ before after, ∀ new : SignalNode, (n.replaceAt q new).allFindings catalog =
      before ++ (new.allFindings catalog).map (·.below q) ++ after := by
  induction q generalizing n with
  | nil =>
    refine ⟨[], [], ?_⟩
    intro new
    have hsame : (fun f : Finding => f.below []) = id := rfl
    rw [replaceAt, hsame, List.map_id, List.nil_append, List.append_nil]
  | cons i q ih =>
    obtain ⟨id, args, children, rule⟩ := n
    obtain ⟨k, hk, hm⟩ := subtree?_cons_eq_some.1 hm
    obtain ⟨hknown, hv⟩ := (visited_cons hk).1 hv
    obtain ⟨c, hl⟩ := Option.isSome_iff_exists.1 hknown
    obtain ⟨before, after, hb⟩ := ih hv hm
    let found := fun x : SignalNode × Nat => (x.1.allFindings catalog).map (·.under x.2)
    refine ⟨(c.lacks args children.length rule).map (⟨[], id, ·⟩) ++
        (children.take i).zipIdx.flatMap found ++ before.map (·.under i),
      after.map (·.under i) ++ ((children.drop (i + 1)).zipIdx (i + 1)).flatMap found, ?_⟩
    intro new
    have hone : found (k.replaceAt q new, i) = before.map (·.under i) ++
        (new.allFindings catalog).map (·.below (i :: q)) ++ after.map (·.under i) := by
      dsimp only [found]
      rw [hb new, List.map_append, List.map_append, List.map_map]
      rfl
    have hall : (mk id args (children.modify i fun k => k.replaceAt q new) rule).allFindings
        catalog = (c.lacks args children.length rule).map (⟨[], id, ·⟩) ++
          (children.modify i fun k => k.replaceAt q new).zipIdx.flatMap found := by
      rw [allFindings_of_known hl, List.length_modify]
    rw [replaceAt, hall, flatMap_zipIdx_modify hk, hone]
    simp only [List.append_assoc]

theorem checkable_of_replaceAt {m new : SignalNode} (hv : n.Visited catalog q)
    (hm : n.subtree? q = some m) (h : (n.replaceAt q new).Checkable catalog) :
    new.Checkable catalog := by
  induction q generalizing n with
  | nil => exact h
  | cons i q ih =>
    obtain ⟨id, args, children, rule⟩ := n
    obtain ⟨k, hk, hm⟩ := subtree?_cons_eq_some.1 hm
    obtain ⟨hknown, hv⟩ := (visited_cons hk).1 hv
    obtain ⟨c, hl⟩ := Option.isSome_iff_exists.1 hknown
    have hmem : k.replaceAt q new ∈ children.modify i fun k => k.replaceAt q new := by
      apply List.mem_of_getElem? (i := i)
      simp [hk]
    exact ih hv hm (((checkable_of_known hl).1 h).2 _ hmem)

/-- What is wrong with a tree depends on the subtree at a position in one block only: what is wrong
with that subtree, told of the position. Where a signal above it is not known, it does not depend
on the subtree at all. Nothing keeps a tree of numbers that have doubles from being checked. -/
theorem problems_local (catalog : Catalog) (list : SignalList) {n : SignalNode} {q : List Nat}
    (hq : q ∈ n.positions) :
    (¬n.Visited catalog q → ∀ new, (n.replaceAt q new).problems catalog list =
      n.problems catalog list) ∧
    (n.Visited catalog q → ∃ before after, ∀ new : SignalNode,
      Succeeds ((n.replaceAt q new).problems catalog list) →
        ∃ own, new.problems catalog list = .ok own ∧
          (n.replaceAt q new).problems catalog list =
            .ok (before ++ own.map (Problem.moved list q) ++ after)) ∧
    (catalog.BoundsConvert → ∀ new, (n.replaceAt q new).NumbersConvert →
      Succeeds ((n.replaceAt q new).problems catalog list)) := by
  refine ⟨?_, ?_, ?_⟩
  · intro h new
    rw [problems, problems, findings_replaceAt_of_hidden h new]
  · intro hv
    obtain ⟨m, hm⟩ := mem_positions.1 hq
    obtain ⟨before, after, hb⟩ := allFindings_replaceAt hv hm
    refine ⟨before.map (Finding.toProblem list), after.map (Finding.toProblem list), ?_⟩
    intro new hs
    have hwhole : Settles ((n.replaceAt q new).Checkable catalog)
        ((n.replaceAt q new).problems catalog list) ((n.replaceAt q new).report catalog list) :=
      (n.replaceAt q new).problems_settles list
    have hc : (n.replaceAt q new).Checkable catalog := hwhole.succeeds_iff.1 hs
    have hown : new.problems catalog list = .ok (new.report catalog list) :=
      (new.problems_settles list).ok (checkable_of_replaceAt hv hm hc)
    refine ⟨new.report catalog list, hown, ?_⟩
    have hmoved : ((new.allFindings catalog).map (·.below q)).map (Finding.toProblem list) =
        (new.report catalog list).map (Problem.moved list q) := by
      rw [report, List.map_map, List.map_map]
      exact List.map_congr_left fun f _ => f.toProblem_below list q
    rw [hwhole.ok hc, report, hb new, List.map_append, List.map_append, hmoved]
  · intro hb new hn
    exact ((n.replaceAt q new).problems_settles list).succeeds_iff.2 (hn.checkable hb)

/-- A rule over two signals, one of which is not known. -/
def overUnknown : SignalNode where
  catalogId := "Rule"
  args := [("Rule1 Base Offset", .text "now")]
  children := [.average (.int 0), { catalogId := "tide", children := [.average (.int 0)] }]
  rule := { mode1 := some "Signal", operation1 := some ">" }

/-- The first signal below the rule is seen where it stands; nothing below the unknown one is. -/
theorem average_replaced_below_rule :
    let long := average (.text "long")
    let deep : SignalNode :=
      { catalogId := "EMA", args := [("Length", .int 3)], children := [{ catalogId := "wave" }] }
    [0] ∈ overUnknown.positions ∧ overUnknown.Visited .builtIn [0] ∧
      (∃ before after,
        (overUnknown.replaceAt [0] long).problems .builtIn .exit = .ok (before ++
          [⟨"ExitSignals.Children[0].Args.Length",
            "Argument 'Length' must be a number for signal 'sma'", .argumentType⟩] ++ after) ∧
        (overUnknown.replaceAt [0] deep).problems .builtIn .exit = .ok (before ++
          [⟨"ExitSignals.Children[0].Children[0]", "Unknown signal catalog ID: wave",
            .unknownCapability⟩] ++ after)) ∧
      [1, 0] ∈ overUnknown.positions ∧ ¬overUnknown.Visited .builtIn [1, 0] ∧
      (overUnknown.replaceAt [1, 0] deep).problems .builtIn .exit =
        overUnknown.problems .builtIn .exit := by
  intro long deep
  have hq : [0] ∈ overUnknown.positions := by decide
  have hv : overUnknown.Visited .builtIn [0] := by decide +kernel
  have hq' : [1, 0] ∈ overUnknown.positions := by decide
  have hv' : ¬overUnknown.Visited .builtIn [1, 0] := by decide +kernel
  have hb : Catalog.builtIn.BoundsConvert := Catalog.builtIn_boundsConvert
  obtain ⟨-, hblock, hchecked⟩ := problems_local .builtIn .exit hq
  obtain ⟨before, after, hblock⟩ := hblock hv
  obtain ⟨own, ho, hlong⟩ := hblock long (hchecked hb long (by decide +kernel))
  obtain ⟨own', ho', hdeep⟩ := hblock deep (hchecked hb deep (by decide +kernel))
  have hown : long.problems .builtIn .exit = .ok
      [⟨"ExitSignals.Args.Length", "Argument 'Length' must be a number for signal 'sma'",
        .argumentType⟩] := by decide +kernel
  have hown' : deep.problems .builtIn .exit = .ok
      [⟨"ExitSignals.Children[0]", "Unknown signal catalog ID: wave", .unknownCapability⟩] := by
    decide +kernel
  cases ho.symm.trans hown
  cases ho'.symm.trans hown'
  refine ⟨hq, hv, ⟨before, after, ?_, ?_⟩, hq', hv', ?_⟩
  · exact hlong
  · exact hdeep
  · exact (problems_local .builtIn .exit hq').1 hv' deep

end SignalNode

end TradingSignals
