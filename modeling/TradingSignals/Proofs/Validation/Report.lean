import TradingSignals.Proofs.Validation.Lacks
import TradingSignals.Proofs.Validation.Visit

namespace TradingSignals

namespace SignalNode

variable {catalog : Catalog}

/-- What is wrong with a signal, its children left aside. -/
def lacks (catalog : Catalog) (n : SignalNode) : List Defect :=
  match catalog.lookup n.catalogId with
  | none => [.unknownSignal]
  | some c => c.lacks n.args n.children.length n.rule

/-- What is found at one position. -/
def findingsAt (catalog : Catalog) (n : SignalNode) (p : List Nat) : List Finding :=
  match n.subtree? p with
  | none => []
  | some m => (m.lacks catalog).map fun defect => ⟨p, m.catalogId, defect⟩

/-- What is found at the visited positions, in their order. -/
def allFindings (catalog : Catalog) (n : SignalNode) : List Finding :=
  (n.visits catalog).flatMap (n.findingsAt catalog)

/-- What is wrong with a tree: at each visited position, in order, what the signal there lacks. -/
def report (catalog : Catalog) (list : SignalList) (n : SignalNode) : List Problem :=
  (n.allFindings catalog).map (Finding.toProblem list)

/-- All numbers that are looked into can be turned into doubles. -/
def Checkable (catalog : Catalog) (n : SignalNode) : Prop :=
  ∀ p m c, n.RunsAs catalog p m c → ∀ spec ∈ c.requiredArgs, spec.Checkable m.args

section

variable {id : String} {args : List (String × Scalar)} {children : List SignalNode}
  {rule : RuleFields}

theorem findingsAt_cons {n : SignalNode} {i : Nat} (hn : children[i]? = some n) (p : List Nat) :
    (mk id args children rule).findingsAt catalog (i :: p) =
      (n.findingsAt catalog p).map (·.under i) := by
  rw [findingsAt, findingsAt, subtree?_cons, hn, Option.bind_some]
  cases n.subtree? p with
  | none => rfl
  | some m =>
    simp only [List.map_map]
    rfl

theorem allFindings_of_unknown (h : catalog.lookup id = none) :
    (mk id args children rule).allFindings catalog = [⟨[], id, .unknownSignal⟩] := by
  rw [allFindings, visits_of_unknown h, List.flatMap_singleton, findingsAt, subtree?_nil]
  simp only [lacks, h, List.map_cons, List.map_nil]

theorem allFindings_of_known {c : Capability} (h : catalog.lookup id = some c) :
    (mk id args children rule).allFindings catalog =
      (c.lacks args children.length rule).map (⟨[], id, ·⟩) ++
        children.zipIdx.flatMap fun x => (x.1.allFindings catalog).map (·.under x.2) := by
  rw [allFindings, visits_of_known h, List.flatMap_cons, List.flatMap_assoc]
  congr 1
  · rw [findingsAt, subtree?_nil]
    simp only [lacks, h]
  · refine List.flatMap_congr fun x hx => ?_
    rw [List.flatMap_map, allFindings, List.map_flatMap]
    exact List.flatMap_congr fun p _ => findingsAt_cons (List.mem_zipIdx_iff_getElem?.1 hx) p

theorem checkable_of_unknown (h : catalog.lookup id = none) :
    (mk id args children rule).Checkable catalog := by
  intro p m c hr
  cases p with
  | nil =>
    obtain ⟨rfl, hc⟩ := runsAs_nil.1 hr
    cases h.symm.trans hc
  | cons i p =>
    have hk := (runsAs_cons.1 hr).1
    rw [h] at hk
    cases hk

theorem checkable_of_known {c : Capability} (h : catalog.lookup id = some c) :
    (mk id args children rule).Checkable catalog ↔
      (∀ spec ∈ c.requiredArgs, spec.Checkable args) ∧
        ∀ n ∈ children, n.Checkable catalog := by
  constructor
  · intro hc
    have ho := hc [] (mk id args children rule) c (runsAs_nil.2 ⟨rfl, h⟩)
    refine ⟨ho, ?_⟩
    intro n hn p m d hr
    obtain ⟨i, hi⟩ := List.mem_iff_getElem?.1 hn
    have hk : (catalog.lookup id).isSome := by rw [h]; rfl
    exact hc (i :: p) m d (runsAs_cons.2 ⟨hk, n, hi, hr⟩)
  · intro h p m d hr
    obtain ⟨ho, hb⟩ := h
    cases p with
    | nil =>
      obtain ⟨rfl, hd⟩ := runsAs_nil.1 hr
      exact Option.some.inj (h.symm.trans hd) ▸ ho
    | cons i p =>
      obtain ⟨-, n, hi, hr⟩ := runsAs_cons.1 hr
      exact hb n (List.mem_of_getElem? hi) p m d hr

end

theorem childFindings_settles {nodes : List SignalNode}
    (h : ∀ n ∈ nodes, Settles (n.Checkable catalog) (n.findings catalog) (n.allFindings catalog))
    (i : Nat) :
    Settles (∀ n ∈ nodes, n.Checkable catalog) (childFindings catalog i nodes)
      ((nodes.zipIdx i).flatMap fun x => (x.1.allFindings catalog).map (·.under x.2)) := by
  induction nodes generalizing i with
  | nil => exact Settles.pure (fun _ hn => nomatch hn) []
  | cons n nodes ih =>
    have hn := h n List.mem_cons_self
    have hm : ∀ m ∈ nodes,
        Settles (m.Checkable catalog) (m.findings catalog) (m.allFindings catalog) := by
      intro m hm
      exact h m (List.mem_cons_of_mem n hm)
    have hr := ih hm (i + 1)
    rw [List.zipIdx_cons, List.flatMap_cons, List.forall_mem_cons, childFindings]
    exact hn.bind (hr.map _)

/-- The walk through a tree finds what there is at the visited positions. Nothing is visited below
an unknown id, which is why it may stop there. -/
theorem findings_settles (n : SignalNode) :
    Settles (n.Checkable catalog) (n.findings catalog) (n.allFindings catalog) := by
  induction n using SignalNode.induct with
  | node id args children rule ih =>
    rw [findings]
    cases h : catalog.lookup id with
    | none =>
      rw [allFindings_of_unknown h]
      exact Settles.pure (checkable_of_unknown h) _
    | some c =>
      have hb := childFindings_settles ih 0
      rw [allFindings_of_known h, checkable_of_known h]
      exact Capability.defects_settles.bind (hb.map _)

/-- What is found is told with the id of the signal it is found at. -/
theorem exists_of_mem_findings {n : SignalNode} {found : List Finding}
    (h : n.findings catalog = .ok found) {f : Finding} (hf : f ∈ found) :
    ∃ m, n.subtree? f.position = some m ∧ m.catalogId = f.id := by
  have hs : Settles (n.Checkable catalog) (n.findings catalog) (n.allFindings catalog) :=
    n.findings_settles
  have hc : n.Checkable catalog := hs.succeeds_iff.1 ⟨found, h⟩
  rw [hs.ok hc] at h
  cases h
  obtain ⟨p, -, hp⟩ := List.mem_flatMap.1 hf
  unfold findingsAt at hp
  cases hm : n.subtree? p with
  | none =>
    rw [hm] at hp
    cases hp
  | some m =>
    rw [hm] at hp
    obtain ⟨defect, -, rfl⟩ := List.mem_map.1 hp
    exact ⟨m, hm, rfl⟩

theorem problems_settles (list : SignalList) (n : SignalNode) :
    Settles (n.Checkable catalog) (n.problems catalog list) (n.report catalog list) :=
  n.findings_settles.map _

end SignalNode

namespace StrategyDocument

/-- What is wrong with a document, part by part. -/
def report (catalog : Catalog) (d : StrategyDocument) : List Problem :=
  reportIf (d.version ≠ "1.0") ⟨"Version", "Unsupported IR version", .schema⟩ ++
  reportIf (d.strategy.isNone) ⟨"Strategy", "Strategy is required", .schema⟩ ++
  (d.signals .entry).flatMap (SignalNode.report catalog .entry) ++
  (d.signals .exit).flatMap (SignalNode.report catalog .exit)

def Checkable (catalog : Catalog) (d : StrategyDocument) : Prop :=
  ∀ list, ∀ n ∈ d.signals list, n.Checkable catalog

theorem problems_settles (catalog : Catalog) (d : StrategyDocument) :
    Settles (d.Checkable catalog) (d.problems catalog) (d.report catalog) := by
  have hv : reportIf (d.version ≠ "1.0") ⟨"Version", "Unsupported IR version", .schema⟩ =
      (if d.version = currentVersion then []
        else [⟨"Version", "Unsupported IR version", .schema⟩] : List Problem) := by
    rw [reportIf, ite_not]
    rfl
  unfold problems report
  rw [hv]
  cases h : d.strategy with
  | none =>
    have hs : ∀ list, d.signals list = [] := by
      intro list
      rw [signals, h]
    have hc : d.Checkable catalog := by
      intro list n hn
      rw [hs] at hn
      cases hn
    rw [hs, hs]
    simp only [List.flatMap_nil, List.append_nil]
    exact Settles.pure hc _
  | some s =>
    have hs : ∀ list, d.signals list = s.signals list := by
      intro list
      rw [signals, h]
    have hc : d.Checkable catalog ↔ (∀ n ∈ s.entrySignals, n.Checkable catalog) ∧
        ∀ n ∈ s.exitSignals, n.Checkable catalog := by
      simp only [Checkable, hs]
      exact SignalList.forall_iff
    have hl : ∀ list, Settles (∀ n ∈ s.signals list, n.Checkable catalog)
        (gather (SignalNode.problems catalog list) (s.signals list))
        ((s.signals list).flatMap (SignalNode.report catalog list)) := by
      intro list
      apply Settles.gathered
      intro n _
      exact n.problems_settles list
    rw [hc, hs, hs]
    simp only [reportIf, Option.isNone_some, Bool.false_eq_true, if_false, List.append_nil]
    exact (hl .entry).bind ((hl .exit).map _)

end StrategyDocument

end TradingSignals
