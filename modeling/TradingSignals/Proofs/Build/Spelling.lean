import TradingSignals.Proofs.Build.RuleCodes
import TradingSignals.Proofs.Validation.Agreement
import TradingSignals.Proofs.Validation.Exact

namespace TradingSignals

/-- The same tree, but for ids: at every position the two ids stand for the same capability, or
both are not known. -/
inductive SignalNode.Respelled (catalog : Catalog) : SignalNode → SignalNode → Prop
  | node {id id' : String} {args : List (String × Scalar)} {children children' : List SignalNode}
      {rule : RuleFields} (ids : catalog.lookup id = catalog.lookup id')
      (below : List.Forall₂ (Respelled catalog) children children') :
      Respelled catalog (.mk id args children rule) (.mk id' args children' rule)

/-- The same strategy, but for the ids in its trees. -/
structure Strategy.Respelled (catalog : Catalog) (s t : Strategy) : Prop where
  signals : ∀ list, List.Forall₂ (SignalNode.Respelled catalog) (s.signals list) (t.signals list)
  settings : s.settings = t.settings
  clarificationRequest : s.clarificationRequest = t.clarificationRequest

structure StrategyDocument.Respelled (catalog : Catalog) (d e : StrategyDocument) : Prop where
  version : d.version = e.version
  strategy : Option.Rel (Strategy.Respelled catalog) d.strategy e.strategy

/-- The same defect at the same position. -/
structure Finding.Alike (f g : Finding) : Prop where
  position : f.position = g.position
  defect : f.defect = g.defect

/-- The same problem of two documents. What is said of it is the same, too, unless it quotes the id
of the signal at which it is found, as it is spelled in the document. -/
structure Problem.Respelled (d e : StrategyDocument) (p q : Problem) : Prop where
  path : p.path = q.path
  kind : p.kind = q.kind
  message : p.message = q.message ∨ ∃ list root position m m' part before after,
    d.signal? list root position = some m ∧ e.signal? list root position = some m' ∧
    p.path = nodePath list position ++ part ∧
    p.message = before ++ m.catalogId ++ after ∧ q.message = before ++ m'.catalogId ++ after

/-- The same reason, but for the spelling of an id that is not known. -/
inductive CompileFault.Respelled : CompileFault → CompileFault → Prop
  | unknown (id id' : String) : Respelled (.unknownCapability id) (.unknownCapability id')
  | same (fault : CompileFault) : Respelled fault fault

/-- The same result, or failures for the same reason. -/
inductive SameCompilation {α : Type} : Except CompileFault α → Except CompileFault α → Prop
  | ok (a : α) : SameCompilation (.ok a) (.ok a)
  | error {fault fault' : CompileFault} (h : fault.Respelled fault') :
      SameCompilation (.error fault) (.error fault')

namespace SameCompilation

variable {α β : Type} {r r' : Except CompileFault α}

theorem refl (r : Except CompileFault α) : SameCompilation r r := by
  cases r with
  | ok a => exact .ok a
  | error fault => exact .error (.same fault)

theorem bind {f f' : α → Except CompileFault β} (h : SameCompilation r r')
    (hf : ∀ a, SameCompilation (f a) (f' a)) : SameCompilation (r >>= f) (r' >>= f') := by
  cases h with
  | ok a => exact hf a
  | error h => exact .error h

theorem map (f : α → β) (h : SameCompilation r r') : SameCompilation (f <$> r) (f <$> r') := by
  cases h with
  | ok a => exact .ok (f a)
  | error h => exact .error h

theorem eq_of_succeeds (h : SameCompilation r r') (hs : Succeeds r) : r' = r := by
  cases h with
  | ok a => rfl
  | error h => exact absurd hs not_succeeds_error

end SameCompilation

/-- Every message has one place for the id. -/
theorem Defect.message_quotes (defect : Defect) :
    ∃ before after, ∀ id, defect.message id = before ++ id ++ after := by
  cases defect with
  | unknownSignal => exact ⟨"Unknown signal catalog ID: ", "", fun id => String.append_empty.symm⟩
  | missingArg key =>
    exact ⟨"Missing required argument '" ++ key ++ "' for signal '", "'", fun id => rfl⟩
  | noNumber key =>
    exact ⟨"Argument '" ++ key ++ "' must be a number for signal '", "'", fun id => rfl⟩
  | below key bound =>
    exact ⟨"Argument '" ++ key ++ "' must be >= " ++ bound.shown ++ " for signal '", "'",
      fun id => rfl⟩
  | above key bound =>
    exact ⟨"Argument '" ++ key ++ "' must be <= " ++ bound.shown ++ " for signal '", "'",
      fun id => rfl⟩
  | fewChildren required given =>
    refine ⟨"Signal '", "' requires " ++ String.ofList (intText required) ++ " children, but " ++
      String.ofList (natText given) ++ " provided", ?_⟩
    intro id
    have h : message id (.fewChildren required given) =
      "Signal '" ++ id ++ "' requires " ++ String.ofList (intText required) ++ " children, but " ++
        String.ofList (natText given) ++ " provided" := rfl
    rw [h]
    simp only [String.append_assoc]
  | noMode => exact ⟨"Parametric signal '", "' requires Rule1Mode", fun id => rfl⟩
  | otherMode =>
    exact ⟨"Rule1Mode must be 'Signal' or 'Value' for signal '", "'", fun id => rfl⟩
  | noOperation => exact ⟨"Parametric signal '", "' requires Rule1Operation", fun id => rfl⟩
  | noCrossOp => exact ⟨"Parametric signal '", "' requires CrossOp", fun id => rfl⟩

namespace SignalNode

variable {catalog : Catalog} {n n' : SignalNode}

theorem childFindings_agree {nodes more : List SignalNode} {i : Nat}
    (h : List.Forall₂ (fun n n' => Agree (List.Forall₂ Finding.Alike) (n.findings catalog)
      (n'.findings catalog)) nodes more) :
    Agree (List.Forall₂ Finding.Alike) (childFindings catalog i nodes)
      (childFindings catalog i more) := by
  induction h generalizing i with
  | nil => exact .ok .nil
  | cons hn _ ih =>
    rw [childFindings, childFindings]
    apply hn.bind
    intro first first' hf
    apply ih.map
    intro rest rest' hr
    have hunder : List.Forall₂ Finding.Alike (first.map (·.under i)) (first'.map (·.under i)) := by
      rw [List.forall₂_map_left_iff, List.forall₂_map_right_iff]
      exact hf.imp fun f g hfg => ⟨congrArg (i :: ·) hfg.position, hfg.defect⟩
    exact List.rel_append hunder hr

/-- The walk looks at ids for what they stand for only. -/
theorem Respelled.findings_agree (h : n.Respelled catalog n') :
    Agree (List.Forall₂ Finding.Alike) (n.findings catalog) (n'.findings catalog) := by
  induction n using SignalNode.induct generalizing n' with
  | node id args children rule ih =>
    cases h with
    | @node _ id' _ _ children' _ ids below =>
      rw [findings, findings, ids]
      cases catalog.lookup id' with
      | none => exact .ok (.cons ⟨rfl, rfl⟩ .nil)
      | some c =>
        have hbelow := childFindings_agree (i := 0)
          (forall₂_imp below fun k hk k' hkk => ih k hk hkk)
        simp only [below.length_eq]
        cases c.defects args children'.length rule with
        | error fault => exact .error fault
        | ok own =>
          apply hbelow.map
          intro found found' hf
          have hown : List.Forall₂ Finding.Alike (own.map (⟨[], id, ·⟩))
              (own.map (⟨[], id', ·⟩)) := by
            rw [List.forall₂_map_left_iff, List.forall₂_map_right_iff]
            exact List.forall₂_same.2 fun defect _ => ⟨rfl, rfl⟩
          exact List.rel_append hown hf

theorem compileSignals_same {nodes more : List SignalNode}
    (h : List.Forall₂ (fun n n' => SameCompilation (n.compile catalog) (n'.compile catalog))
      nodes more) :
    SameCompilation (compileSignals catalog nodes) (compileSignals catalog more) := by
  induction h with
  | nil => exact .ok []
  | cons hn _ ih =>
    rw [compileSignals, compileSignals]
    apply hn.bind
    intro first
    exact ih.map _

/-- A signal is compiled from what its id stands for. -/
theorem Respelled.compile_same (h : n.Respelled catalog n') :
    SameCompilation (n.compile catalog) (n'.compile catalog) := by
  induction n using SignalNode.induct generalizing n' with
  | node id args children rule ih =>
    cases h with
    | @node _ id' _ _ children' _ ids below =>
      have hbelow := compileSignals_same
        (forall₂_imp below fun k hk k' hkk => ih k hk hkk)
      have hempty : children.isEmpty = children'.isEmpty := by
        cases below with
        | nil => rfl
        | cons => rfl
      rw [compile, compile, ids, hempty]
      cases catalog.lookup id' with
      | none => exact .error (.unknown id id')
      | some c =>
        apply (SameCompilation.refl (c.compiled args rule)).bind
        intro own
        exact hbelow.map _

end SignalNode

namespace StrategyDocument

variable {catalog : Catalog} {d e : StrategyDocument}

theorem Respelled.signals (h : d.Respelled catalog e) (list : SignalList) :
    List.Forall₂ (SignalNode.Respelled catalog) (d.signals list) (e.signals list) := by
  have hs := h.strategy
  unfold StrategyDocument.signals
  generalize d.strategy = s, e.strategy = t at hs
  cases hs with
  | none => exact .nil
  | some hs => exact hs.signals list

/-- The problems of trees that stand at the same place of two documents. -/
theorem node_problems_agree {list : SignalList} {root : Nat} {n n' : SignalNode}
    (h : n.Respelled catalog n') (hn : (d.signals list)[root]? = some n)
    (hn' : (e.signals list)[root]? = some n') :
    Agree (List.Forall₂ (Problem.Respelled d e)) (n.problems catalog list)
      (n'.problems catalog list) := by
  have hfindings := h.findings_agree
  unfold SignalNode.problems
  generalize hr : n.findings catalog = r, hr' : n'.findings catalog = r' at hfindings
  cases hfindings with
  | error fault => exact .error fault
  | ok hfound =>
    apply Agree.ok
    rw [List.forall₂_map_left_iff, List.forall₂_map_right_iff]
    apply (forall₂_at hfound).imp
    intro f g hfg
    obtain ⟨halike, i, hf, hg⟩ := hfg
    obtain ⟨m, hm, hid⟩ := SignalNode.exists_of_mem_findings hr (List.mem_of_getElem? hf)
    obtain ⟨m', hm', hid'⟩ := SignalNode.exists_of_mem_findings hr' (List.mem_of_getElem? hg)
    obtain ⟨before, after, hquote⟩ := f.defect.message_quotes
    have hpath : (f.toProblem list).path = (g.toProblem list).path := by
      rw [Finding.toProblem, Finding.toProblem, halike.position, halike.defect]
    have hkind : (f.toProblem list).kind = (g.toProblem list).kind := by
      rw [Finding.toProblem, Finding.toProblem, halike.defect]
    have hsaid : (f.toProblem list).message = before ++ m.catalogId ++ after := by
      rw [Finding.toProblem, hid, hquote]
    have hsaid' : (g.toProblem list).message = before ++ m'.catalogId ++ after := by
      rw [Finding.toProblem, hid', ← halike.defect, hquote]
    have hat : d.signal? list root f.position = some m := by
      rw [signal?, hn, Option.bind_some, hm]
    have hat' : e.signal? list root f.position = some m' := by
      rw [signal?, hn', Option.bind_some, halike.position, hm']
    exact ⟨hpath, hkind, .inr ⟨list, root, f.position, m, m', f.defect.part.path, before, after,
      hat, hat', rfl, hsaid, hsaid'⟩⟩

theorem Respelled.problems_agree (h : d.Respelled catalog e) :
    Agree (List.Forall₂ (Problem.Respelled d e)) (d.problems catalog) (e.problems catalog) := by
  have hlist : ∀ list, Agree (List.Forall₂ (Problem.Respelled d e))
      (gather (SignalNode.problems catalog list) (d.signals list))
      (gather (SignalNode.problems catalog list) (e.signals list)) := by
    intro list
    apply gather_agree
    apply (forall₂_at (h.signals list)).imp
    intro n n' hnn'
    obtain ⟨hr, root, hn, hn'⟩ := hnn'
    exact node_problems_agree hr hn hn'
  have hself : ∀ ps, List.Forall₂ (Problem.Respelled d e) ps ps := by
    intro ps
    exact List.forall₂_same.2 fun p _ => ⟨rfl, rfl, .inl rfl⟩
  have hentry := hlist .entry
  have hexit := hlist .exit
  have hs := h.strategy
  unfold StrategyDocument.signals at hentry hexit
  rw [problems, problems, h.version]
  generalize d.strategy = s, e.strategy = t at hs hentry hexit
  cases hs with
  | none => exact .ok (hself _)
  | some hs =>
    apply hentry.bind
    intro entry entry' hentry
    apply hexit.map
    intro exit exit' hexit
    exact List.rel_append (List.rel_append (hself _) hentry) hexit

/-- An average over no bars to enter by, and a signal to exit by. -/
def emptyAverage (average source exit : String) : StrategyDocument where
  strategy := some
    { entrySignals := [{ catalogId := average, args := [("Length", .int 0)],
                         children := [{ catalogId := source }] }]
      exitSignals := [{ catalogId := exit }] }

/-- How an id is spelled does not matter, nor which id it is where none is known. The same problems
are found, in the same order, and nothing else than the id in a message is another one; what can be
compiled comes to the same signals, and what cannot fails for the same reason. -/
theorem spelling_immaterial (h : d.Respelled catalog e) :
    Agree (List.Forall₂ (Problem.Respelled d e)) (d.problems catalog) (e.problems catalog) ∧
    (catalog.BoundsConvert → d.IntegersConvert → Succeeds (d.problems catalog)) ∧
    ∀ list, SameCompilation (compileSignals catalog (d.signals list))
      (compileSignals catalog (e.signals list)) := by
  refine ⟨h.problems_agree, ?_, ?_⟩
  · intro hb hi
    exact (d.problems_settles catalog).succeeds_iff.2 ((checkable_iff hb).2 hi.checked)
  · intro list
    apply SignalNode.compileSignals_same
    apply (h.signals list).imp
    intro n n' hn
    exact hn.compile_same

/-- The two documents differ in names an average has, in the case of an id, and in ids that are not
known. -/
theorem average_respelled :
    let d := emptyAverage "sma" "raw.close" "tide"
    let e := emptyAverage "Simple MOVING Average" "Raw.Close" "wave"
    d.Respelled .builtIn e ∧ Catalog.builtIn.BoundsConvert ∧ d.IntegersConvert ∧
      (∃ ps qs, d.problems .builtIn = .ok ps ∧ e.problems .builtIn = .ok qs ∧
        List.Forall₂ (Problem.Respelled d e) ps qs ∧
        ps.map (·.message) = ["Argument 'Length' must be >= 1 for signal 'sma'",
          "Unknown signal catalog ID: tide"] ∧
        qs.map (·.message) = ["Argument 'Length' must be >= 1 for signal 'Simple MOVING Average'",
          "Unknown signal catalog ID: wave"]) ∧
      ∃ signals, compileSignals .builtIn (d.signals .entry) = .ok signals ∧
        compileSignals .builtIn (e.signals .entry) = .ok signals := by
  intro d e
  have haverage : Catalog.builtIn.lookup "sma" =
      Catalog.builtIn.lookup "Simple MOVING Average" := by decide +kernel
  have hclose : Catalog.builtIn.lookup "raw.close" = Catalog.builtIn.lookup "Raw.Close" := by
    decide +kernel
  have hunknown : Catalog.builtIn.lookup "tide" = Catalog.builtIn.lookup "wave" := by
    decide +kernel
  have h : d.Respelled .builtIn e := by
    refine ⟨rfl, .some ⟨?_, rfl, rfl⟩⟩
    intro list
    cases list with
    | entry => exact .cons (.node haverage (.cons (.node hclose .nil) .nil)) .nil
    | exit => exact .cons (.node hunknown .nil) .nil
  have hb : Catalog.builtIn.BoundsConvert := Catalog.builtIn_boundsConvert
  have hi : d.IntegersConvert := by decide +kernel
  obtain ⟨hagree, hchecked, hsame⟩ := spelling_immaterial h
  obtain ⟨ps, hps⟩ := hchecked hb hi
  rw [hps] at hagree
  generalize hqs : e.problems .builtIn = r at hagree
  cases hagree with
  | @ok _ qs hrel =>
    have hmessages : (fun ps : List Problem => ps.map (·.message)) <$> d.problems .builtIn =
        .ok ["Argument 'Length' must be >= 1 for signal 'sma'",
          "Unknown signal catalog ID: tide"] := by decide +kernel
    have hmessages' : (fun qs : List Problem => qs.map (·.message)) <$> e.problems .builtIn =
        .ok ["Argument 'Length' must be >= 1 for signal 'Simple MOVING Average'",
          "Unknown signal catalog ID: wave"] := by decide +kernel
    rw [hps] at hmessages
    rw [hqs] at hmessages'
    have hok : (compileSignals .builtIn (d.signals .entry)).toOption.any fun _ => true := by
      decide +kernel
    obtain ⟨signals, hsignals, -⟩ := any_toOption_iff.1 hok
    refine ⟨h, hb, hi, ⟨ps, qs, hps, rfl, hrel, Except.ok.inj hmessages,
      Except.ok.inj hmessages'⟩, signals, hsignals, ?_⟩
    rw [(hsame .entry).eq_of_succeeds ⟨signals, hsignals⟩, hsignals]

end StrategyDocument

end TradingSignals
