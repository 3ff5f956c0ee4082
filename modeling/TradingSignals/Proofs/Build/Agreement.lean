import TradingSignals.Proofs.Build.Delivery
import TradingSignals.Proofs.Build.Outcome
import TradingSignals.Proofs.Signal.Agreement
import TradingSignals.Proofs.Validation.Agreement

namespace TradingSignals

/-- What a build tells besides its signals and settings. -/
structure BuildOutcome.SameReport (o o' : BuildOutcome) : Prop where
  status : o.status = o'.status
  errorMessage : ∀ wording, o.errorMessage wording = o'.errorMessage wording
  problems : o.problems = o'.problems

theorem keys_eq_of_rel {o o' : Option CompiledSignal}
    (h : Option.Rel CompiledSignal.Alike o o') : o.map (·.key) = o'.map (·.key) := by
  cases h with
  | none => rfl
  | some hst => exact congrArg some hst.own.key

theorem keys_eq_of_alike {signals more : List CompiledSignal}
    (h : List.Forall₂ CompiledSignal.Alike signals more) (root : Nat) (p : List Nat) :
    (compiledSignal? signals root p).map (·.key) = (compiledSignal? more root p).map (·.key) := by
  have hroot := rel_getElem? h root
  unfold compiledSignal?
  generalize signals[root]? = s, more[root]? = t at hroot
  cases hroot with
  | none => rfl
  | some hst =>
    have hp := hst.subtree? p
    exact keys_eq_of_rel hp

namespace StrategyDocument

variable {catalog : Catalog} {d e : StrategyDocument}

section

variable (hw : ∀ list, ∀ n ∈ d.signals list, n.Everywhere SignalNode.ArgsWritten) (h : d.same e)
include hw h

theorem compileSignals_agree (list : SignalList) :
    Agree (List.Forall₂ CompiledSignal.Alike) (compileSignals catalog (d.signals list))
      (compileSignals catalog (e.signals list)) := by
  apply compileSignals_agree_of_forall₂
  apply forall₂_imp (signals_of_same h list)
  intro n hn m hnm
  exact SignalNode.compile_agree (hw list n hn) hnm

theorem compile_agree : Agree BuildOutcome.SameReport ((d.strategy.getD {}).compile catalog)
    ((e.strategy.getD {}).compile catalog) := by
  have hl : ∀ list, Agree (List.Forall₂ CompiledSignal.Alike)
      (compileSignals catalog (d.signals list)) (compileSignals catalog (e.signals list)) :=
    fun list => compileSignals_agree hw h list
  simp only [← signals_getD] at hl
  apply (hl .entry).bind
  intro entry entry' _
  apply (hl .exit).map
  intro exit exit' _
  exact ⟨rfl, fun _ => rfl, rfl⟩

theorem build_sameReport : (d.build catalog).SameReport (e.build catalog) := by
  have hc : Agree BuildOutcome.SameReport ((d.strategy.getD {}).compile catalog)
      ((e.strategy.getD {}).compile catalog) := compile_agree hw h
  rw [build, build, question_eq_of_same h, problems_eq_of_same hw h]
  cases e.strategy.bind fun s => given? s.clarificationRequest with
  | some question => exact ⟨rfl, fun _ => rfl, rfl⟩
  | none =>
    cases e.problems catalog with
    | error fault => exact ⟨rfl, fun _ => rfl, rfl⟩
    | ok problems =>
      cases problems with
      | cons p problems => exact ⟨rfl, fun _ => rfl, rfl⟩
      | nil =>
        generalize (d.strategy.getD {}).compile catalog = r,
          (e.strategy.getD {}).compile catalog = r' at hc
        cases hc with
        | ok ho => exact ho
        | error fault => exact ⟨rfl, fun _ => rfl, rfl⟩

end

/-- A document is treated as any other that is the same, whatever the order of its arguments and
the spelling of its numbers: it has the same problems, it is compiled to alike signals with the
same keys, or fails alike, and building it is reported alike. The signals are the same ones just
when every double in them is a number. -/
theorem same_treated_alike {text : String} (hd : read text = .ok d) (h : d.same e)
    (catalog : Catalog) :
    d.problems catalog = e.problems catalog ∧
      (∀ list, Agree
        (fun signals more => List.Forall₂ CompiledSignal.Alike signals more ∧
          (sameCompiledSignals signals more ↔ ∀ s ∈ signals, s.NumbersOnly) ∧
          ∀ root p, (compiledSignal? signals root p).map (·.key) =
            (compiledSignal? more root p).map (·.key))
        (compileSignals catalog (d.signals list)) (compileSignals catalog (e.signals list))) ∧
      (d.build catalog).SameReport (e.build catalog) := by
  have hw := argsWritten (writtenIn_of_read hd)
  refine ⟨problems_eq_of_same hw h, ?_, build_sameReport hw h⟩
  intro list
  apply (compileSignals_agree hw h list).imp
  intro signals more ha
  have hsame := CompiledSignal.sameCompiledSignals_iff (ha.imp fun _ _ hst => hst.same_iff)
  exact ⟨ha, hsame, keys_eq_of_alike ha⟩

def wholeLength : String :=
  "\x7b\"Strategy\":\x7b\"EntrySignals\":[\x7b\"CatalogId\":\"sma\",\"Args\":\x7b\"Length\":100000000000000000000,\"X\":0\x7d\x7d]\x7d\x7d"

def roundLength : StrategyDocument :=
  .single
    { catalogId := "sma"
      args := [("X", .float (.zero true)), ("Length", .float (.ofDecimal false 1 20))] }

/-- A length above `2^53`, written out and as `1e20`, beside a nought of either sign. Every double
in the signals is a number, and they are the same. -/
theorem round_length_treated_alike :
    ∃ d, read wholeLength = .ok d ∧ d.same roundLength ∧
      d.problems .builtIn = roundLength.problems .builtIn ∧
      Agree (fun signals more => List.Forall₂ CompiledSignal.Alike signals more ∧
          sameCompiledSignals signals more)
        (compileSignals .builtIn (d.signals .entry))
        (compileSignals .builtIn (roundLength.signals .entry)) ∧
      (d.build .builtIn).SameReport (roundLength.build .builtIn) := by
  have hread : ∃ d, read wholeLength = .ok d ∧ (d.same roundLength &&
      (compileSignals .builtIn (d.signals .entry)).toOption.any fun signals =>
        (compileSignals .builtIn (roundLength.signals .entry)).toOption.any fun more =>
          sameCompiledSignals signals more) := by
    rw [← any_toOption_iff]
    decide +kernel
  obtain ⟨d, hd, hp⟩ := hread
  rw [Bool.and_eq_true, any_toOption_iff] at hp
  obtain ⟨h, signals, hs, hmore⟩ := hp
  obtain ⟨more, hm, hsame⟩ := any_toOption_iff.1 hmore
  obtain ⟨hv, hc, hb⟩ := same_treated_alike hd h .builtIn
  refine ⟨d, hd, h, hv, ?_, hb⟩
  have hentry := hc .entry
  rw [hs, hm] at hentry ⊢
  cases hentry with
  | ok ha => exact .ok ⟨ha.1, hsame⟩

def shiftedByNoNumber : String :=
  "\x7b\"Strategy\": \x7b\"EntrySignals\": [\x7b\"CatalogId\": \"price\", \"Args\": " ++
    "\x7b\"Shift\": \"nan\"\x7d\x7d]\x7d\x7d"

/-- A text that reads as no number passes as an optional argument. The document is the same when it
is read once more, but what it is compiled to is not. -/
theorem no_number_compiled_to_another :
    let catalog := Catalog.ofList [shiftedPrice]
    ∃ d e signals more, read shiftedByNoNumber = .ok d ∧ read shiftedByNoNumber = .ok e ∧
      d.same e ∧ d.problems catalog = .ok [] ∧
      compileSignals catalog (d.signals .entry) = .ok signals ∧
      compileSignals catalog (e.signals .entry) = .ok more ∧ ¬sameCompiledSignals signals more := by
  intro catalog
  have hread : ∃ d, read shiftedByNoNumber = .ok d ∧ (d.same d && d.problems catalog == .ok [] &&
      (compileSignals catalog (d.signals .entry)).toOption.any fun signals =>
        !sameCompiledSignals signals signals) := by
    rw [← any_toOption_iff]
    decide +kernel
  obtain ⟨d, hd, hp⟩ := hread
  rw [Bool.and_eq_true, Bool.and_eq_true, any_toOption_iff] at hp
  obtain ⟨⟨hsame, hv⟩, signals, hs, hne⟩ := hp
  rw [Bool.not_eq_true'] at hne
  exact ⟨d, d, signals, signals, hd, hd, hsame, eq_of_beq hv, hs, hs, ne_true_of_eq_false hne⟩

end StrategyDocument

end TradingSignals
