import TradingSignals.Proofs.Build.Outcome
import TradingSignals.Proofs.Json.Standard
import TradingSignals.Proofs.Signal.Codes

namespace TradingSignals

theorem Settings.allFinite_toJson_iff {s : Settings} :
    s.toJson.AllFinite ↔ ∀ x ∈ s.positionSize, x.isFinite := by
  have htext : ∀ o, (Json.ofText? o).AllFinite := by
    rintro (_ | s)
    · exact JsonTree.allFinite_null
    · exact JsonTree.allFinite_text
  have hint : ∀ o, (Json.ofInt? o).AllFinite := by
    rintro (_ | n)
    · exact JsonTree.allFinite_null
    · exact JsonTree.allFinite_int
  have hfloat : (Json.ofFloat? s.positionSize).AllFinite ↔ ∀ x ∈ s.positionSize, x.isFinite := by
    cases s.positionSize <;> simp [Json.ofFloat?, Json.ofOption]
  rw [toJson, JsonTree.allFinite_object_iff]
  simp [htext, hint, hfloat]

namespace BuildOutcome

variable {wording : Wording} {outcome : BuildOutcome}

/-- What holds of flags, texts, null and lists of problems holds of all that an outcome tells when
it holds of its signals and its settings. -/
theorem forall_fields_iff {P : Json → Prop} {fields : List (String × Json)}
    (hf : outcome.toJson wording = .object fields) (null : P .null) (bool : ∀ b, P (.bool b))
    (text : ∀ s, P (.text s))
    (problems : ∀ problems : List Problem, P (.array (problems.map Problem.toJson))) :
    (∀ f ∈ fields, P f.2) ↔ (∀ list, P (signalsToJson (outcome.signals list))) ∧
      P (Json.ofOption Settings.toJson outcome.settings) := by
  have htext : ∀ o, P (Json.ofText? o) := by
    rintro (_ | s)
    · exact null
    · exact text s
  rw [SignalList.forall_iff, ← JsonTree.object.inj hf, List.forall_mem_append]
  simp only [List.forall_mem_cons, bool, text, htext, true_and]
  cases outcome.problems with
  | none => simp [and_assoc]
  | some found => simp [and_assoc, problems]

theorem allFinite_toJson_iff :
    (outcome.toJson wording).AllFinite ↔
      ∀ s ∈ outcome.settings, ∀ x ∈ s.positionSize, x.isFinite := by
  have hsignals : ∀ list, (signalsToJson (outcome.signals list)).AllFinite := by
    intro list
    cases outcome.signals list with
    | none => rfl
    | some signals =>
      rw [signalsToJson, Json.ofOption, JsonTree.allFinite_array_iff, List.forall_mem_map]
      exact fun s _ => JsonTree.allFinite_finite _
  have hsettings : (Json.ofOption Settings.toJson outcome.settings).AllFinite ↔
      ∀ s ∈ outcome.settings, ∀ x ∈ s.positionSize, x.isFinite := by
    cases outcome.settings <;> simp [Json.ofOption, Settings.allFinite_toJson_iff]
  have hproblem : ∀ problems : List Problem,
      (JsonTree.array (problems.map Problem.toJson)).AllFinite := by
    intro problems
    rw [JsonTree.allFinite_array_iff, List.forall_mem_map]
    exact fun p _ => rfl
  rw [toJson, JsonTree.allFinite_object_iff, forall_fields_iff (P := JsonTree.AllFinite) rfl
    JsonTree.allFinite_null (fun _ => JsonTree.allFinite_bool) (fun _ => JsonTree.allFinite_text)
    hproblem, hsettings]
  exact and_iff_right hsignals

/-- An outcome takes two levels more than the signals in it. -/
theorem fitsIn_toJson {room : Nat}
    (hsignals : ∀ list signals, outcome.signals list = some signals →
      ∀ s ∈ signals, s.toWire.FitsIn (room + 1))
    (hsettings : ∀ s ∈ outcome.settings, s.Written) :
    (outcome.toJson wording).FitsIn (room + 3) := by
  have hlist : ∀ list, (signalsToJson (outcome.signals list)).FitsIn (room + 2) := by
    intro list
    cases hs : outcome.signals list with
    | none => exact JsonTree.fitsIn_null
    | some signals =>
      rw [signalsToJson, Json.ofOption, JsonTree.fitsIn_array_iff, List.forall_mem_map]
      exact hsignals list signals hs
  have hproblem : ∀ problems : List Problem,
      (JsonTree.array (problems.map Problem.toJson)).FitsIn (room + 2) := by
    intro problems
    rw [JsonTree.fitsIn_array_iff, List.forall_mem_map]
    intro p _
    rw [Problem.toJson, JsonTree.fitsIn_object_iff]
    simp
  rw [toJson, JsonTree.fitsIn_object_iff, forall_fields_iff
    (P := JsonTree.FitsIn (room + 2)) rfl JsonTree.fitsIn_null (fun _ => JsonTree.fitsIn_bool)
    (fun _ => JsonTree.fitsIn_text) hproblem]
  exact ⟨hlist, fitsIn_ofOption fun s hs => fitsIn_settings (hsettings s hs)⟩

end BuildOutcome

namespace StrategyDocument

variable {wording : Wording} {catalog : Catalog} {d : StrategyDocument}

theorem size_of_built_iff :
    (∀ s ∈ (d.build catalog).settings, ∀ x ∈ s.positionSize, x.isFinite) ↔
      ((d.build catalog).status = "success" → ∀ x ∈ d.positionSize?, x.isFinite) := by
  cases hb : d.build catalog with
  | success entry exit settings =>
    obtain ⟨-, -, ⟨s, hs, rfl⟩, -⟩ := build_eq_success_iff.1 hb
    have hsize : d.positionSize? = s.settings.bind (·.positionSize) := by
      rw [positionSize?, hs, Option.bind_some]
    rw [hsize]
    cases s.settings <;> simp [BuildOutcome.settings, BuildOutcome.status]
  | _ => simp [BuildOutcome.settings, BuildOutcome.status]

theorem written_of_built (h : ∀ t ∈ d.strategy.bind (·.settings), t.Written) :
    ∀ t ∈ (d.build catalog).settings, t.Written := by
  cases hb : d.build catalog with
  | success entry exit settings =>
    obtain ⟨-, -, ⟨s, hs, rfl⟩, -⟩ := build_eq_success_iff.1 hb
    rw [hs] at h
    exact h
  | _ =>
    intro t ht
    cases ht

/-- A document has two levels more than the signals in it. -/
theorem fitsIn_of_levels {k : Nat} (hw : ∀ t ∈ d.strategy.bind (·.settings), t.Written)
    (hlevels : ∀ list signals, (d.build catalog).signals list = some signals →
      ∀ s ∈ signals, s.toWire.depth ≤ k + 1) :
    ((d.build catalog).toJson wording).FitsIn (k + 3) := by
  refine BuildOutcome.fitsIn_toJson ?_ (written_of_built hw)
  intro list signals hl s hs
  have hc := compileSignals_eq_ok_iff.1 (compileSignals_of_built hl)
  obtain ⟨n, -, hn⟩ := exists_mem_of_forall₂ hc hs
  exact ⟨hlevels list signals hl s hs,
    CompiledSignal.intsFit_toWire (CompiledSignal.coded_of_compile hn)⟩

/-- What fits into a document fits into a text that can be read back. -/
theorem fitsIn_of_built {doc : Json} (hd : (d.build catalog).toJson? wording = .ok doc)
    (hw : ∀ t ∈ d.strategy.bind (·.settings), t.Written) :
    ((d.build catalog).toJson wording).FitsIn JsonGrammar.loose.nesting := by
  obtain ⟨hfits, -⟩ := BuildOutcome.toJson?_eq_ok_iff.1 hd
  have hfit : ((d.build catalog).toJson wording).FitsIn (253 + 3) := by
    apply fitsIn_of_levels hw
    intro list signals hl s hs
    exact CompiledSignal.fits_iff.1 (hfits list signals hl s hs)
  exact ⟨hfit.depth.trans (by decide), hfit.ints⟩

theorem settings_written_of_read {text : String} (h : read text = .ok d) :
    ∀ t ∈ d.strategy.bind (·.settings), t.Written := by
  intro t ht
  obtain ⟨s, hs, ht⟩ := Option.bind_eq_some_iff.1 ht
  exact (writtenIn_of_read h s hs).settings t ht

theorem accepts_build_iff {indent : Nat} :
    Standard.Accepts ((d.build catalog).write wording indent) ↔
      ((d.build catalog).status = "success" → ∀ x ∈ d.positionSize?, x.isFinite) := by
  rw [BuildOutcome.write, Standard.accepts_report_iff, BuildOutcome.allFinite_toJson_iff,
    size_of_built_iff]

/-- A build that has a document is written as a text that is read back as that document. It is a
text of the JSON standard just when no position size that is infinite or no number was built.
Every build of a document text has a document. -/
theorem build_read_back (wording : Wording) (catalog : Catalog) (d : StrategyDocument) :
    (∀ doc indent, (d.build catalog).toJson? wording = .ok doc →
      (∀ t ∈ d.strategy.bind (·.settings), t.Written) →
      readJson .loose ((d.build catalog).write wording indent) = .ok (doc.mapText .ofString) ∧
        (Standard.Accepts ((d.build catalog).write wording indent) ↔
          ((d.build catalog).status = "success" → ∀ x ∈ d.positionSize?, x.isFinite))) ∧
    ∀ text, read text = .ok d → (∃ doc, (d.build catalog).toJson? wording = .ok doc) ∧
      ∀ t ∈ d.strategy.bind (·.settings), t.Written := by
  constructor
  · intro doc indent hd hw
    have hstyle : (JsonStyle.report indent).Readable .loose LooseText.ofString
        (JsonTree.mapText LooseText.ofString) := JsonStyle.readable_report
    have hread := readJson_write hstyle (fitsIn_of_built hd hw)
    obtain ⟨-, rfl⟩ := BuildOutcome.toJson?_eq_ok_iff.1 hd
    exact ⟨hread, accepts_build_iff⟩
  · intro text h
    exact ⟨⟨_, toJson?_of_read h wording⟩, settings_written_of_read h⟩

theorem half_size_read_back :
    ∃ d, read "\x7b\"Strategy\": \x7b\"Settings\": \x7b\"PositionSize\": 0.5\x7d\x7d\x7d" =
        .ok d ∧
      ∀ wording, ∃ doc, (d.build .builtIn).toJson? wording = .ok doc ∧
        Standard.Accepts ((d.build .builtIn).write wording 2) ∧
        readJson .loose ((d.build .builtIn).write wording 2) = .ok (doc.mapText .ofString) := by
  have hread : ∃ d, read
      "\x7b\"Strategy\": \x7b\"Settings\": \x7b\"PositionSize\": 0.5\x7d\x7d\x7d" = .ok d ∧
        d.positionSize?.all (·.isFinite) := by
    rw [← any_toOption_iff]
    decide +kernel
  obtain ⟨d, hd, hx⟩ := hread
  refine ⟨d, hd, fun wording => ?_⟩
  obtain ⟨hwritten, hdocument⟩ := build_read_back wording .builtIn d
  obtain ⟨⟨doc, hdoc⟩, hw⟩ := hdocument _ hd
  obtain ⟨hback, hstandard⟩ := hwritten doc 2 hdoc hw
  refine ⟨doc, hdoc, hstandard.2 fun _ x hs => ?_, hback⟩
  rw [hs] at hx
  exact hx

/-- A position size that is no number comes through to the text, which is no JSON then. -/
theorem size_no_number_written :
    ∃ d, read "\x7b\"Strategy\": \x7b\"Settings\": \x7b\"PositionSize\": NaN\x7d\x7d\x7d" =
        .ok d ∧
      (d.build .builtIn).status = "success" ∧
        ∀ wording, ¬Standard.Accepts ((d.build .builtIn).write wording 2) := by
  have hread : ∃ d, read
      "\x7b\"Strategy\": \x7b\"Settings\": \x7b\"PositionSize\": NaN\x7d\x7d\x7d" = .ok d ∧
        (d.positionSize? == some .nan && (d.build .builtIn).status == "success") := by
    rw [← any_toOption_iff]
    decide +kernel
  obtain ⟨d, hd, hp⟩ := hread
  rw [Bool.and_eq_true, beq_iff_eq, beq_iff_eq] at hp
  refine ⟨d, hd, hp.2, ?_⟩
  intro wording h
  exact absurd (accepts_build_iff.1 h hp.2 .nan hp.1) (by decide)

end StrategyDocument

end TradingSignals
