import TradingSignals.Proofs.Strategy.Agreement
import TradingSignals.Validation.Finding

namespace TradingSignals

theorem gather_eq_of_forall₂ {ε α β γ : Type} {f : α → Except ε (List γ)}
    {g : β → Except ε (List γ)} {as : List α} {bs : List β}
    (h : List.Forall₂ (fun a b => f a = g b) as bs) : gather f as = gather g bs := by
  induction h with
  | nil => rfl
  | cons hab _ ih => rw [gather, gather, hab, ih]

/-- What is searched in lists of which the members are alike. -/
theorem gather_agree {ε α β γ : Type} {f : α → Except ε (List γ)} {g : β → Except ε (List γ)}
    {rel : γ → γ → Prop} {as : List α} {bs : List β}
    (h : List.Forall₂ (fun a b => Agree (List.Forall₂ rel) (f a) (g b)) as bs) :
    Agree (List.Forall₂ rel) (gather f as) (gather g bs) := by
  induction h with
  | nil => exact .ok .nil
  | cons hab _ ih =>
    rw [gather, gather]
    apply hab.bind
    intro first first' hf
    apply ih.map
    intro rest rest' hr
    exact List.rel_append hf hr

namespace ArgSpec

variable {spec : ArgSpec}

/-- The check compares a value as a double, so that it looks at nothing but its place. -/
theorem valueDefects_eq_of_same {v w : Scalar} (h : v.same w) :
    spec.valueDefects v = spec.valueDefects w := by
  have hn := Scalar.number?_rel h
  unfold valueDefects
  generalize v.number? = m, w.number? = n at hn
  cases hn with
  | none => rfl
  | some hp =>
    apply (Number.toFloat_agree hp).bind_eq
    intro x y hxy
    have hplace : x.place = y.place := hxy
    simp only [hplace]

theorem defects_eq_of_lookup {args args' : List (String × Scalar)}
    (h : ∀ key, Option.Rel (fun x y : Scalar => x.same y) (args.lookup key) (args'.lookup key)) :
    spec.defects args = spec.defects args' := by
  have hl := h spec.key
  unfold defects
  generalize args.lookup spec.key = o, args'.lookup spec.key = o' at hl
  cases hl with
  | none => rfl
  | some hv => simp only [valueDefects_eq_of_same hv]

end ArgSpec

theorem Capability.defects_eq_of_lookup {c : Capability} {args args' : List (String × Scalar)}
    {children : Nat} {rule : RuleFields}
    (h : ∀ key, Option.Rel (fun x y : Scalar => x.same y) (args.lookup key) (args'.lookup key)) :
    c.defects args children rule = c.defects args' children rule := by
  have hg : gather (ArgSpec.defects args) c.requiredArgs =
      gather (ArgSpec.defects args') c.requiredArgs :=
    gather_eq_of_forall₂ (List.forall₂_same.2 fun _ _ => ArgSpec.defects_eq_of_lookup h)
  rw [defects, defects, hg]

section

variable {catalog : Catalog}

theorem childFindings_eq_of_forall₂ {nodes more : List SignalNode} {i : Nat}
    (h : List.Forall₂ (fun n m => n.findings catalog = m.findings catalog) nodes more) :
    childFindings catalog i nodes = childFindings catalog i more := by
  induction h generalizing i with
  | nil => rfl
  | cons hnm _ ih => rw [childFindings, childFindings, hnm, ih]

/-- The same trees have the same findings, at the same positions and in the same order. -/
theorem SignalNode.findings_eq_of_same {n m : SignalNode} (hw : n.Everywhere ArgsWritten)
    (h : n.same m) : n.findings catalog = m.findings catalog := by
  induction n using SignalNode.induct generalizing m with
  | node id args children rule ih =>
    obtain ⟨id', args', children', rule'⟩ := m
    obtain ⟨rfl, hargs, rfl, hchildren⟩ := same_mk.1 h
    obtain ⟨hown, hbelow⟩ := everywhere_mk.1 hw
    have hd : ∀ c : Capability, c.defects args children.length rule =
        c.defects args' children.length rule :=
      fun c => c.defects_eq_of_lookup (lookup_rel hargs hown.keys)
    have hb : childFindings catalog 0 children = childFindings catalog 0 children' := by
      apply childFindings_eq_of_forall₂
      exact forall₂_imp hchildren fun n hn m hnm => ih n hn (hbelow n hn) hnm
    rw [findings, findings, ← hchildren.length_eq, hb]
    simp only [hd]

theorem gather_problems_eq_of_same {nodes more : List SignalNode} {list : SignalList}
    (hw : ∀ n ∈ nodes, n.Everywhere SignalNode.ArgsWritten)
    (h : List.Forall₂ (fun n m => n.same m) nodes more) :
    gather (SignalNode.problems catalog list) nodes =
      gather (SignalNode.problems catalog list) more := by
  apply gather_eq_of_forall₂
  apply forall₂_imp h
  intro n hn m hnm
  rw [SignalNode.problems, SignalNode.problems, SignalNode.findings_eq_of_same (hw n hn) hnm]

/-- The same documents have the same problems, or both cannot be checked. -/
theorem StrategyDocument.problems_eq_of_same {d e : StrategyDocument}
    (hw : ∀ list, ∀ n ∈ d.signals list, n.Everywhere SignalNode.ArgsWritten) (h : d.same e) :
    d.problems catalog = e.problems catalog := by
  have hg : ∀ list, gather (SignalNode.problems catalog list) (d.signals list) =
      gather (SignalNode.problems catalog list) (e.signals list) :=
    fun list => gather_problems_eq_of_same (hw list) (signals_of_same h list)
  have hentry := hg .entry
  have hexit := hg .exit
  have hs := strategy_rel_of_same h
  rw [problems, problems, version_eq_of_same h]
  unfold signals at hentry hexit
  generalize d.strategy = o, e.strategy = o' at hs hentry hexit
  cases hs with
  | none => rfl
  | some hs =>
    dsimp only [Strategy.signals] at hentry hexit
    simp only [hentry, hexit]

end

end TradingSignals
