import TradingSignals.Proofs.Catalog.Bounds
import TradingSignals.Proofs.Strategy.Shown
import TradingSignals.Proofs.Text.Lines
import TradingSignals.Proofs.Validation.Site
import TradingSignals.Proofs.Validation.Totality

namespace TradingSignals

section

variable {problems : List Problem}

/-- A summary has the lines of what is said of each problem, under its heading. -/
theorem textLines_problemSummary (h : problems ≠ []) : textLines (problemSummary problems) =
    "Validation failed:" :: (problems.map Problem.line).flatMap textLines := by
  have hne : problems.isEmpty = false := List.isEmpty_eq_false_iff.2 h
  have hlines : problems.map Problem.line ≠ [] := mt List.map_eq_nil_iff.1 h
  have hhead : "Validation failed:\n" = "Validation failed:" ++ "\n" := by decide
  have hline : OneLine "Validation failed:" := by decide
  rw [problemSummary, hne, if_neg Bool.false_ne_true, hhead, textLines_append,
    textLines_of_oneLine hline, textLines_intercalate hlines, List.singleton_append]

theorem summary_lines_iff (h : problems ≠ []) :
    (textLines (problemSummary problems) = "Validation failed:" :: problems.map Problem.line ↔
      ∀ p ∈ problems, OneLine p.line) ∧
    ((textLines (problemSummary problems)).length = problems.length + 1 ↔
      ∀ p ∈ problems, OneLine p.line) := by
  have hlength : (textLines (problemSummary problems)).length = problems.length + 1 ↔
      ∀ p ∈ problems, OneLine p.line := by
    have hcount := (length_flatMap_textLines (problems.map Problem.line)).2
    rw [List.length_map, List.forall_mem_map] at hcount
    rw [textLines_problemSummary h, List.length_cons, Nat.add_right_cancel_iff, hcount]
  refine ⟨⟨?_, ?_⟩, hlength⟩
  · intro he
    apply hlength.1
    rw [he, List.length_cons, List.length_map]
  · intro hone
    rw [textLines_problemSummary h, flatMap_textLines (List.forall_mem_map.2 hone)]

end

theorem oneLine_natText (n : Nat) : OneLine (String.ofList (natText n)) := by
  rw [OneLine, String.toList_ofList]
  intro h
  exact absurd (isDigit_of_mem_natText h) (by decide)

theorem oneLine_intText (v : Int) : OneLine (String.ofList (intText v)) := by
  rw [OneLine, String.toList_ofList]
  intro h
  exact absurd (mem_intText h) (by decide)

theorem Binary64.oneLine_shown (x : Binary64) : OneLine x.shown := by
  unfold shown
  split
  · exact oneLine_intText _
  · rw [OneLine, String.toList_ofList]
    intro h
    by_cases hx : x.isFinite
    · exact absurd (FloatStyle.report.inNumber_of_mem_text hx h) (by decide)
    · cases x with
      | nan => exact absurd h (by decide)
      | infinite negative => cases negative <;> exact absurd h (by decide)
      | finite => exact absurd rfl hx

theorem oneLine_nodePath (list : SignalList) (position : List Nat) :
    OneLine (nodePath list position) := by
  have hname : OneLine list.name := by cases list <;> decide
  rw [nodePath, oneLine_append]
  refine ⟨hname, ?_⟩
  rw [OneLine, String.toList_join, List.mem_flatMap]
  rintro ⟨step, hs, hc⟩
  obtain ⟨i, -, rfl⟩ := List.mem_map.1 hs
  have hstep : OneLine (".Children[" ++ String.ofList (natText i) ++ "]") := by
    rw [oneLine_append, oneLine_append]
    exact ⟨⟨by decide, oneLine_natText i⟩, by decide⟩
  exact hstep hc

namespace Defect

/-- The argument that a defect names. -/
def key? : Defect → Option String
  | .missingArg key | .noNumber key | .below key _ | .above key _ => some key
  | _ => none

variable {defect : Defect} {id : String}

theorem oneLine_message_iff :
    OneLine (defect.message id) ↔ OneLine id ∧ ∀ key ∈ defect.key?, OneLine key := by
  -- the words around the id and the key are one line each, in every message
  unfold message
  cases defect <;>
    simp +decide [key?, oneLine_natText, oneLine_intText, Binary64.oneLine_shown, and_comm]

theorem key?_of_part {key : String} (h : defect.part = .arg key) : defect.key? = some key := by
  cases defect <;> cases h <;> rfl

theorem Marks.key {c : Capability} {n : SignalNode} (h : defect.Marks c n) {key : String}
    (hk : key ∈ defect.key?) : ∃ spec ∈ c.requiredArgs, key = spec.key := by
  cases defect with
  | missingArg | noNumber =>
    obtain ⟨spec, hs, -, he⟩ := h
    exact ⟨spec, hs, Option.some.inj hk ▸ he⟩
  | below | above =>
    obtain ⟨spec, hs, _, -, _, -, -, he, -⟩ := h
    exact ⟨spec, hs, Option.some.inj hk ▸ he⟩
  | _ => cases hk

end Defect

theorem NodePart.oneLine_path {part : NodePart} (h : ∀ key, part = .arg key → OneLine key) :
    OneLine part.path := by
  cases part with
  | arg key =>
    have hword : OneLine ".Args." := by decide
    exact oneLine_append.2 ⟨hword, h key rfl⟩
  | _ => decide

/-- What is said of a finding is one line unless the id or the key in it is not. -/
theorem Finding.oneLine_iff {list : SignalList} {f : Finding} :
    OneLine (f.toProblem list).line ↔ OneLine f.id ∧ ∀ key ∈ f.defect.key?, OneLine key := by
  have hdash : OneLine "- " := by decide
  have hcolon : OneLine ": " := by decide
  rw [Problem.line, oneLine_append, oneLine_append, oneLine_append]
  constructor
  · intro h
    exact Defect.oneLine_message_iff.1 h.2
  · intro h
    have hpart : OneLine f.defect.part.path :=
      NodePart.oneLine_path fun key hk => h.2 key (Defect.key?_of_part hk)
    have hpath : OneLine (f.toProblem list).path :=
      oneLine_append.2 ⟨oneLine_nodePath list f.position, hpart⟩
    exact ⟨⟨⟨hdash, hpath⟩, hcolon⟩, Defect.oneLine_message_iff.2 h⟩

theorem mem_lowerFrom_newline {before cs : List Char} (h : '\n' ∈ cs) :
    '\n' ∈ lowerFrom before cs := by
  induction cs generalizing before with
  | nil => cases h
  | cons c cs ih =>
    rw [lowerFrom, List.mem_append]
    rcases List.mem_cons.1 h with rfl | h
    · left
      have hkept : '\n' ∈ lowerChar '\n' := by decide
      rwa [if_neg (by decide)]
    · exact Or.inr (ih h)

theorem oneLine_of_lowercase {s : String} (h : OneLine (lowercase s)) : OneLine s := by
  intro hm
  apply h
  rw [lowercase, String.toList_ofList]
  exact mem_lowerFrom_newline hm

/-- A catalog whose ids, aliases and keys of arguments are one line each. -/
structure Catalog.InLines (catalog : Catalog) : Prop where
  ids : ∀ e ∈ catalog.byId, OneLine e.1
  aliases : ∀ e ∈ catalog.byAlias, OneLine e.1
  keys : ∀ c ∈ catalog.toList, ∀ spec ∈ c.requiredArgs, OneLine spec.key

/-- No spelling of a known id goes over a line. -/
theorem Catalog.InLines.oneLine_of_lookup {catalog : Catalog} (h : catalog.InLines) {id : String}
    {c : Capability} (hc : catalog.lookup id = some c) : OneLine id := by
  apply oneLine_of_lowercase
  unfold lookup at hc
  split at hc
  · next own hk => exact h.ids (lowercase id, own) (mem_of_lookup hk)
  · obtain ⟨other, ha, -⟩ := Option.bind_eq_some_iff.1 hc
    exact h.aliases (lowercase id, other) (mem_of_lookup ha)

namespace StrategyDocument

variable {catalog : Catalog} {d : StrategyDocument}

/-- Whether each id and each key that a problem quotes is one line. -/
def QuotesLines (catalog : Catalog) (d : StrategyDocument) : Prop :=
  ∀ list, ∀ n ∈ d.signals list, ∀ p m, n.Visited catalog p → n.subtree? p = some m →
    ∀ defect : Defect, defect.Holds catalog m →
      OneLine m.catalogId ∧ ∀ key ∈ defect.key?, OneLine key

theorem mem_report_iff {p : Problem} : p ∈ d.report catalog ↔
    d.version ≠ "1.0" ∧ p = ⟨"Version", "Unsupported IR version", .schema⟩ ∨
    d.strategy.isNone ∧ p = ⟨"Strategy", "Strategy is required", .schema⟩ ∨
    ∃ list, ∃ n ∈ d.signals list, ∃ f ∈ n.allFindings catalog, p = f.toProblem list := by
  have hlist : ∀ list, p ∈ (d.signals list).flatMap (SignalNode.report catalog list) ↔
      ∃ n ∈ d.signals list, ∃ f ∈ n.allFindings catalog, p = f.toProblem list := by
    intro list
    simp only [List.mem_flatMap, SignalNode.report, List.mem_map, eq_comm]
  rw [report, List.mem_append, List.mem_append, List.mem_append, mem_reportIf, mem_reportIf,
    hlist, hlist, or_assoc, or_assoc]
  refine or_congr_right (or_congr_right ⟨?_, ?_⟩)
  · rintro (h | h)
    · exact ⟨.entry, h⟩
    · exact ⟨.exit, h⟩
  · rintro ⟨list, h⟩
    cases list with
    | entry => exact Or.inl h
    | exit => exact Or.inr h

/-- The problems of a document as a whole quote nothing. -/
theorem report_oneLine_iff :
    (∀ p ∈ d.report catalog, OneLine p.line) ↔ d.QuotesLines catalog := by
  constructor
  · intro h list n hn p m hv hm defect hd
    have hf : ⟨p, m.catalogId, defect⟩ ∈ n.allFindings catalog :=
      SignalNode.mem_allFindings_iff.2 ⟨hv, m, hm, rfl, hd⟩
    have hreport : Finding.toProblem list ⟨p, m.catalogId, defect⟩ ∈ d.report catalog :=
      mem_report_iff.2 (Or.inr (Or.inr ⟨list, n, hn, _, hf, rfl⟩))
    exact Finding.oneLine_iff.1 (h _ hreport)
  · intro h p hp
    rcases mem_report_iff.1 hp with ⟨-, rfl⟩ | ⟨-, rfl⟩ | ⟨list, n, hn, f, hf, rfl⟩
    · decide
    · decide
    · obtain ⟨hv, m, hm, hid, hd⟩ := SignalNode.mem_allFindings_iff.1 hf
      rw [Finding.oneLine_iff, ← hid]
      exact h list n hn f.position m hv hm f.defect hd

/-- Where the catalog has no text with two lines, only an unknown id can be one. -/
theorem quotesLines_iff (hc : catalog.InLines) : d.QuotesLines catalog ↔
    ∀ list, ∀ n ∈ d.signals list, ∀ p m, n.Visited catalog p → n.subtree? p = some m →
      catalog.lookup m.catalogId = none → OneLine m.catalogId := by
  constructor
  · intro h list n hn p m hv hm hu
    have hd : Defect.unknownSignal.Holds catalog m := by
      rw [Defect.Holds, hu]
    exact (h list n hn p m hv hm _ hd).1
  · intro h list n hn p m hv hm defect hd
    unfold Defect.Holds at hd
    cases hl : catalog.lookup m.catalogId with
    | none =>
      rw [hl] at hd
      cases hd
      exact ⟨h list n hn p m hv hm hl, nofun⟩
    | some c =>
      rw [hl] at hd
      refine ⟨hc.oneLine_of_lookup hl, ?_⟩
      intro key hk
      obtain ⟨spec, hs, rfl⟩ := hd.key hk
      exact hc.keys c (Catalog.mem_toList_of_lookup hl) spec hs

/-- The summary has the lines of each problem in order. There is one for each problem exactly when
no id and no key that is quoted goes over a line. -/
theorem summary_one_line_each {problems : List Problem} (h : d.problems catalog = .ok problems)
    (hne : problems ≠ []) :
    textLines (problemSummary problems) =
      "Validation failed:" :: (problems.map Problem.line).flatMap textLines ∧
    (textLines (problemSummary problems) = "Validation failed:" :: problems.map Problem.line ↔
      d.QuotesLines catalog) ∧
    ((textLines (problemSummary problems)).length = problems.length + 1 ↔
      d.QuotesLines catalog) ∧
    (catalog.InLines → (d.QuotesLines catalog ↔
      ∀ list, ∀ n ∈ d.signals list, ∀ p m, n.Visited catalog p → n.subtree? p = some m →
        catalog.lookup m.catalogId = none → OneLine m.catalogId)) := by
  have hs : Settles (d.Checkable catalog) (d.problems catalog) (d.report catalog) :=
    d.problems_settles catalog
  have hchecked : d.Checkable catalog := hs.succeeds_iff.1 ⟨problems, h⟩
  obtain rfl : d.report catalog = problems := Except.ok.inj ((hs.ok hchecked).symm.trans h)
  obtain ⟨hlines, hlength⟩ := summary_lines_iff hne
  rw [report_oneLine_iff] at hlines hlength
  exact ⟨textLines_problemSummary hne, hlines, hlength, quotesLines_iff⟩

end StrategyDocument

theorem summary_of_three_problems :
    let d : StrategyDocument :=
      { version := "2.0"
        strategy := some
          { entrySignals := [.average (.int 0)], exitSignals := [{ catalogId := "tide" }] } }
    ∃ problems, d.problems .builtIn = .ok problems ∧ problems ≠ [] ∧
      textLines (problemSummary problems) =
        ["Validation failed:", "- Version: Unsupported IR version",
         "- EntrySignals.Args.Length: Argument 'Length' must be >= 1 for signal 'sma'",
         "- ExitSignals: Unknown signal catalog ID: tide"] := by
  intro d
  have hproblems : d.problems .builtIn = .ok
      [⟨"Version", "Unsupported IR version", .schema⟩,
       ⟨"EntrySignals.Args.Length", "Argument 'Length' must be >= 1 for signal 'sma'",
        .argumentBound⟩,
       ⟨"ExitSignals", "Unknown signal catalog ID: tide", .unknownCapability⟩] := by
    decide +kernel
  have hc : Catalog.builtIn.InLines :=
    ⟨by decide +kernel, by decide +kernel, by decide +kernel⟩
  have hids : ∀ list, ∀ n ∈ d.signals list, ∀ p ∈ n.positions, ∀ m ∈ n.subtree? p,
      OneLine m.catalogId := by decide +kernel
  obtain ⟨-, hlines, -, hquotes⟩ :=
    StrategyDocument.summary_one_line_each hproblems (List.cons_ne_nil _ _)
  refine ⟨_, hproblems, List.cons_ne_nil _ _, ?_⟩
  rw [hlines.2]
  · decide +kernel
  · rw [hquotes hc]
    intro list n hn p m _ hm _
    exact hids list n hn p (SignalNode.mem_positions.2 ⟨m, hm⟩) m hm

/-- An unknown id with a second line in it is shown as two problems. -/
theorem forged_problem_in_summary :
    let d : StrategyDocument := .single { catalogId := "tide\n- Version: Unsupported IR version" }
    ∃ problem, d.problems .builtIn = .ok [problem] ∧
      textLines (problemSummary [problem]) =
        ["Validation failed:", "- EntrySignals: Unknown signal catalog ID: tide",
         "- Version: Unsupported IR version"] ∧
      textLines (problemSummary [problem]) ≠ ["Validation failed:", problem.line] := by
  intro d
  have hproblems : d.problems .builtIn = .ok
      [⟨"EntrySignals", "Unknown signal catalog ID: tide\n- Version: Unsupported IR version",
        .unknownCapability⟩] := by
    decide +kernel
  refine ⟨_, hproblems, ?_⟩
  decide +kernel

end TradingSignals
