import TradingSignals.Proofs.Number.DecimalText
import TradingSignals.Proofs.Validation.Report

namespace TradingSignals

/-- Where a problem lies: in which list, at which signal of a tree there, and in what part of the
signal. -/
structure ProblemSite where
  list : SignalList
  position : List Nat
  part : NodePart
  deriving DecidableEq

/-- How a site is written in a problem. -/
def ProblemSite.path (x : ProblemSite) : String := nodePath x.list x.position ++ x.part.path

def Finding.site (list : SignalList) (f : Finding) : ProblemSite :=
  ⟨list, f.position, f.defect.part⟩

theorem Finding.path_toProblem (list : SignalList) (f : Finding) :
    (f.toProblem list).path = (f.site list).path := rfl

namespace ProblemSite

/-- One step to a child, as it stands in a path. -/
def stepText (i : Nat) : List Char :=
  ['.', 'C', 'h', 'i', 'l', 'd', 'r', 'e', 'n', '['] ++ (natText i ++ [']'])

/-- What stands in a path behind the name of the list. -/
def tailText (position : List Nat) (part : NodePart) : List Char :=
  position.flatMap stepText ++ part.path.toList

theorem toList_path (x : ProblemSite) :
    x.path.toList = x.list.name.toList ++ tailText x.position x.part := by
  have hstep : ∀ i, (".Children[" ++ String.ofList (natText i) ++ "]").toList = stepText i := by
    intro i
    simp [stepText]
  rw [path, nodePath, String.toList_append, String.toList_append, String.toList_join,
    List.flatMap_map, tailText, List.append_assoc]
  simp only [hstep]

/-- A number ends at its bracket, so that one step is never the beginning of another. -/
theorem stepText_append_inj {i j : Nat} {cs ds : List Char}
    (h : stepText i ++ cs = stepText j ++ ds) : i = j ∧ cs = ds := by
  rw [stepText, stepText, List.append_assoc, List.append_assoc, List.append_assoc,
    List.append_assoc] at h
  replace h : natText i ++ (']' :: cs) = natText j ++ (']' :: ds) := List.append_cancel_left h
  have hdigits : ∀ (n : Nat) (rest : List Char),
      (natText n ++ (']' :: rest)).takeWhile Char.isDigit = natText n := by
    intro n rest
    apply takeWhile_of_stop (fun _ hc => isDigit_of_mem_natText hc)
    intro c hc
    cases hc
    rfl
  have hnumber : natText i = natText j := by
    rw [← hdigits i cs, h, hdigits]
  have hindex : i = j := by rw [← digitsValue_natText i, hnumber, digitsValue_natText]
  rw [hnumber] at h
  exact ⟨hindex, (List.cons.inj (List.append_cancel_left h)).2⟩

theorem partPath_injective : Function.Injective NodePart.path := by
  intro part other h
  cases part <;> cases other <;> simp_all [NodePart.path, ← String.toList_inj]

/-- No part is written like the step to a child: the word for all children has no bracket. -/
theorem partPath_ne_step {part : NodePart} {i : Nat} {cs : List Char} :
    part.path.toList ≠ stepText i ++ cs := by
  cases part <;> simp [NodePart.path, stepText]

/-- Whatever the keys of arguments are, a key is the last thing in its path. -/
theorem tailText_inj {p q : List Nat} {part other : NodePart}
    (h : tailText p part = tailText q other) : p = q ∧ part = other := by
  induction p generalizing q with
  | nil =>
    cases q with
    | nil => exact ⟨rfl, partPath_injective (String.toList_inj.1 h)⟩
    | cons j q =>
      rw [tailText, tailText, List.flatMap_nil, List.flatMap_cons, List.append_assoc] at h
      exact absurd h partPath_ne_step
  | cons i p ih =>
    cases q with
    | nil =>
      rw [tailText, tailText, List.flatMap_nil, List.flatMap_cons, List.append_assoc] at h
      exact absurd h.symm partPath_ne_step
    | cons j q =>
      simp only [tailText, List.flatMap_cons, List.append_assoc] at h
      obtain ⟨rfl, hrest⟩ := stepText_append_inj h
      obtain ⟨rfl, hpart⟩ := ih hrest
      exact ⟨rfl, hpart⟩

/-- A path is that of one site only. -/
theorem path_injective : Function.Injective path := by
  rintro ⟨list, p, part⟩ ⟨other, q, part'⟩ h
  have hchars := congrArg String.toList h
  rw [toList_path, toList_path] at hchars
  have hlist : list = other := by
    -- the second letters of the names are different
    cases list <;> cases other <;> simp_all [SignalList.name]
  subst hlist
  obtain ⟨rfl, rfl⟩ := tailText_inj (List.append_cancel_left hchars)
  rfl

/-- No site is written like the version or the strategy of a document. -/
theorem path_not_top (x : ProblemSite) : x.path ∉ ["Version", "Strategy"] := by
  have hname : x.list.name.toList.head? = some 'E' := by cases x.list <;> rfl
  have hfirst : x.path.toList.head? = some 'E' := by
    rw [toList_path, List.head?_append, hname]
    rfl
  intro h
  have hall : ∀ s ∈ ["Version", "Strategy"], s.toList.head? ≠ some 'E' := by decide
  exact hall _ h hfirst

end ProblemSite

/-- What a defect says of a signal that is run as a capability. -/
def Defect.Marks (c : Capability) (n : SignalNode) : Defect → Prop
  | .unknownSignal => False
  | .missingArg key =>
    ∃ spec ∈ c.requiredArgs, (spec.optional = false ∧ n.args.lookup spec.key = none) ∧
      key = spec.key
  | .noNumber key =>
    ∃ spec ∈ c.requiredArgs, (∃ v ∈ spec.checked? n.args, v.number? = none) ∧ key = spec.key
  | .below key x =>
    ∃ spec ∈ c.requiredArgs, ∃ k ∈ spec.number? n.args, ∃ bound ∈ spec.min,
      k.toBinary64.place.lt bound.place ∧ key = spec.key ∧ x = bound.toBinary64
  | .above key x =>
    ∃ spec ∈ c.requiredArgs, ∃ k ∈ spec.number? n.args, ∃ bound ∈ spec.max,
      bound.place.lt k.toBinary64.place ∧ key = spec.key ∧ x = bound.toBinary64
  | .fewChildren required given =>
    n.children.length < c.requiredChildren ∧ required = c.requiredChildren ∧
      given = n.children.length
  | .noMode => c.isParametric ∧ n.rule.mode1 ∈ [none, some ""]
  | .otherMode =>
    c.isParametric ∧ n.rule.mode1 ∉ [none, some "", some "Signal", some "Value"]
  | .noOperation => c.isParametric ∧ n.rule.operation1 ∈ [none, some ""]
  | .noCrossOp => c.isParametric ∧ n.rule.crossOp ∈ [none, some ""]

/-- What a defect says of a signal. -/
def Defect.Holds (catalog : Catalog) (n : SignalNode) (defect : Defect) : Prop :=
  match catalog.lookup n.catalogId with
  | none => defect = .unknownSignal
  | some c => defect.Marks c n

theorem mem_reportIf {α : Type} {p : Prop} [Decidable p] {a b : α} :
    b ∈ reportIf p a ↔ p ∧ b = a := by
  unfold reportIf
  split <;> simp_all

section

variable {args : List (String × Scalar)} {spec : ArgSpec} {defect : Defect}

theorem ArgSpec.mem_lacks_iff : defect ∈ spec.lacks args ↔
    (spec.optional = false ∧ args.lookup spec.key = none) ∧ defect = .missingArg spec.key ∨
    (∃ v ∈ spec.checked? args, v.number? = none) ∧ defect = .noNumber spec.key ∨
    (∃ k ∈ spec.number? args, ∃ bound ∈ spec.min, k.toBinary64.place.lt bound.place ∧
      defect = .below spec.key bound.toBinary64) ∨
    (∃ k ∈ spec.number? args, ∃ bound ∈ spec.max, bound.place.lt k.toBinary64.place ∧
      defect = .above spec.key bound.toBinary64) := by
  have hnumber : ((spec.checked? args).isSome ∧ spec.number? args = none) ↔
      ∃ v ∈ spec.checked? args, v.number? = none := by
    unfold number?
    cases spec.checked? args <;> simp
  have hmin : ∀ bound, bound ∈ (spec.brokenMin? args).toList ↔
      bound ∈ spec.min ∧ ∃ k ∈ spec.number? args, k.toBinary64.place.lt bound.place := by
    simp [brokenMin?, Option.any_eq_true]
  have hmax : ∀ bound, bound ∈ (spec.brokenMax? args).toList ↔
      bound ∈ spec.max ∧ ∃ k ∈ spec.number? args, bound.place.lt k.toBinary64.place := by
    simp [brokenMax?, Option.any_eq_true]
  simp only [lacks, List.mem_append, mem_reportIf, hnumber, List.mem_map, hmin, hmax, or_assoc]
  refine or_congr_right (or_congr_right (or_congr ?_ ?_))
  · constructor
    · rintro ⟨bound, ⟨hb, k, hk, hlt⟩, rfl⟩
      exact ⟨k, hk, bound, hb, hlt, rfl⟩
    · rintro ⟨k, hk, bound, hb, hlt, rfl⟩
      exact ⟨bound, ⟨hb, k, hk, hlt⟩, rfl⟩
  · constructor
    · rintro ⟨bound, ⟨hb, k, hk, hlt⟩, rfl⟩
      exact ⟨k, hk, bound, hb, hlt, rfl⟩
    · rintro ⟨k, hk, bound, hb, hlt, rfl⟩
      exact ⟨bound, ⟨hb, k, hk, hlt⟩, rfl⟩

theorem RuleFields.mem_lacks_iff {rule : RuleFields} : defect ∈ rule.lacks ↔
    rule.mode1 ∈ [none, some ""] ∧ defect = .noMode ∨
    rule.mode1 ∉ [none, some "", some "Signal", some "Value"] ∧ defect = .otherMode ∨
    rule.operation1 ∈ [none, some ""] ∧ defect = .noOperation ∨
    rule.crossOp ∈ [none, some ""] ∧ defect = .noCrossOp := by
  simp only [lacks, List.mem_append, mem_reportIf, or_assoc]

end

/-- Nothing else is listed than what the defects say. -/
theorem Capability.mem_lacks_iff {c : Capability} {n : SignalNode} {defect : Defect} :
    defect ∈ c.lacks n.args n.children.length n.rule ↔ defect.Marks c n := by
  have hrule : (defect ∈ if c.isParametric then n.rule.lacks else []) ↔
      c.isParametric ∧ defect ∈ n.rule.lacks := by
    cases c.isParametric <;> simp
  rw [lacks, List.mem_append, List.mem_append, List.mem_flatMap, mem_reportIf, hrule,
    RuleFields.mem_lacks_iff]
  simp only [ArgSpec.mem_lacks_iff]
  cases defect <;> simp [Defect.Marks]

theorem SignalNode.mem_lacks_iff {catalog : Catalog} {n : SignalNode} {defect : Defect} :
    defect ∈ n.lacks catalog ↔ defect.Holds catalog n := by
  unfold lacks Defect.Holds
  cases catalog.lookup n.catalogId with
  | none => exact List.mem_singleton
  | some c => exact Capability.mem_lacks_iff

namespace SignalNode

variable {catalog : Catalog} {n : SignalNode} {list : SignalList}

/-- What is found is what holds of the visited signals, each told with its id. -/
theorem mem_allFindings_iff {f : Finding} : f ∈ n.allFindings catalog ↔
    n.Visited catalog f.position ∧ ∃ m, n.subtree? f.position = some m ∧ m.catalogId = f.id ∧
      f.defect.Holds catalog m := by
  obtain ⟨position, id, defect⟩ := f
  simp only [allFindings, List.mem_flatMap, mem_visits, findingsAt, ← mem_lacks_iff]
  constructor
  · rintro ⟨p, ⟨⟨m, hm⟩, hv⟩, hf⟩
    simp only [hm, List.mem_map, Finding.mk.injEq] at hf
    obtain ⟨_, hd, rfl, rfl, rfl⟩ := hf
    exact ⟨hv, m, hm, rfl, hd⟩
  · rintro ⟨hv, m, hm, rfl, hd⟩
    refine ⟨position, ⟨⟨m, hm⟩, hv⟩, ?_⟩
    simp only [hm, List.mem_map]
    exact ⟨defect, hd, rfl⟩

theorem exists_findings_of_problems {found : List Problem}
    (h : n.problems catalog list = .ok found) :
    n.findings catalog = .ok (n.allFindings catalog) ∧
      found = (n.allFindings catalog).map (Finding.toProblem list) := by
  have hs : Settles (n.Checkable catalog) (n.problems catalog list) (n.report catalog list) :=
    n.problems_settles list
  have hc : n.Checkable catalog := hs.succeeds_iff.1 ⟨found, h⟩
  exact ⟨n.findings_settles.ok hc, Except.ok.inj (h.symm.trans (hs.ok hc))⟩

/-- The path of a problem names one site, and what is said holds of the signal there. So problems
of two signals or about two arguments have different paths, and so have problems of two lists and
those of a document as a whole. -/
theorem problems_located {found : List Problem} (h : n.problems catalog list = .ok found) :
    ∃ findings, n.findings catalog = .ok findings ∧
      found = findings.map (Finding.toProblem list) ∧
      (∀ f ∈ findings,
        (∀ x : ProblemSite, x.path = (f.toProblem list).path ↔
          x = ⟨list, f.position, f.defect.part⟩) ∧
        n.Visited catalog f.position ∧
        ∃ m, n.subtree? f.position = some m ∧ m.catalogId = f.id ∧ f.defect.Holds catalog m) ∧
      (∀ f ∈ findings, ∀ g ∈ findings, (f.toProblem list).path = (g.toProblem list).path →
        f.position = g.position ∧ f.defect.part = g.defect.part) ∧
      (∀ p ∈ found, p.path ≠ "Version" ∧ p.path ≠ "Strategy") ∧
      (∀ other, other ≠ list → ∀ (m : SignalNode) more, m.problems catalog other = .ok more →
        ∀ p ∈ found, ∀ q ∈ more, p.path ≠ q.path) := by
  obtain ⟨hf, rfl⟩ := exists_findings_of_problems h
  refine ⟨_, hf, rfl, ?_, ?_, ?_, ?_⟩
  · intro f hm
    refine ⟨fun x => ?_, mem_allFindings_iff.1 hm⟩
    rw [Finding.path_toProblem, ProblemSite.path_injective.eq_iff]
    rfl
  · intro f _ g _ he
    have hsite : f.site list = g.site list := ProblemSite.path_injective he
    exact ⟨congrArg ProblemSite.position hsite, congrArg ProblemSite.part hsite⟩
  · intro p hp
    obtain ⟨f, -, rfl⟩ := List.mem_map.1 hp
    rw [Finding.path_toProblem]
    simpa using (f.site list).path_not_top
  · intro other hne m more hmore p hp q hq he
    obtain ⟨-, rfl⟩ := exists_findings_of_problems hmore
    obtain ⟨f, -, rfl⟩ := List.mem_map.1 hp
    obtain ⟨g, -, rfl⟩ := List.mem_map.1 hq
    have hsite : f.site list = g.site other := ProblemSite.path_injective he
    exact hne (congrArg ProblemSite.list hsite).symm

/-- A key that looks like the step to a child is not taken for one. -/
theorem step_like_key_located :
    let catalog := Catalog.ofList
      [{ id := "odd", name := "Odd", signalType := "SignalValueTrend",
         requiredArgs := [{ key := "Children[0]" }, { key := "Children[0].Args" }],
         requiredChildren := 2 }]
    let n : SignalNode :=
      { catalogId := "Odd", args := [("Children[0]", .text "7")],
        children := [{ catalogId := "tide" }] }
    n.problems catalog .exit = .ok
      [⟨"ExitSignals.Args.Children[0]", "Argument 'Children[0]' must be a number for signal 'Odd'",
        .argumentType⟩,
       ⟨"ExitSignals.Args", "Missing required argument 'Children[0].Args' for signal 'Odd'",
        .missingArgument⟩,
       ⟨"ExitSignals.Children", "Signal 'Odd' requires 2 children, but 1 provided", .childCount⟩,
       ⟨"ExitSignals.Children[0]", "Unknown signal catalog ID: tide", .unknownCapability⟩] ∧
      (∀ x : ProblemSite,
        x.path = "ExitSignals.Args.Children[0]" ↔ x = ⟨.exit, [], .arg "Children[0]"⟩) ∧
      (∀ x : ProblemSite, x.path = "ExitSignals.Children[0]" ↔ x = ⟨.exit, [0], .whole⟩) := by
  intro catalog n
  have hfound : n.findings catalog = .ok
      [⟨[], "Odd", .noNumber "Children[0]"⟩, ⟨[], "Odd", .missingArg "Children[0].Args"⟩,
       ⟨[], "Odd", .fewChildren 2 1⟩, ⟨[0], "tide", .unknownSignal⟩] := by
    decide +kernel
  obtain ⟨found, hproblems⟩ : ∃ found, n.problems catalog .exit = .ok found :=
    ⟨_, by rw [problems, hfound]; rfl⟩
  obtain ⟨findings, hf, -, hsite, -⟩ := problems_located hproblems
  cases hfound.symm.trans hf
  have hkey : (Finding.toProblem .exit ⟨[], "Odd", .noNumber "Children[0]"⟩).path =
      "ExitSignals.Args.Children[0]" := by decide +kernel
  have hchild : (Finding.toProblem .exit ⟨[0], "tide", .unknownSignal⟩).path =
      "ExitSignals.Children[0]" := by decide +kernel
  refine ⟨by decide +kernel, ?_, ?_⟩
  · rw [← hkey]
    exact (hsite _ List.mem_cons_self).1
  · rw [← hchild]
    exact (hsite _ (by simp)).1

end SignalNode

end TradingSignals
