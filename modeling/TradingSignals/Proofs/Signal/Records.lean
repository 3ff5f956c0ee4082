import TradingSignals.Proofs.Schema.Decoded
import TradingSignals.Proofs.Signal.Compilation

namespace TradingSignals

theorem eq_of_recordBound {name : String} {bound : Number} {x : Binary64}
    (h : recordBound name bound = .ok x) : x = bound.toBinary64 := by
  by_cases hc : bound.converts
  · rw [recordBound_of_converts hc] at h
    exact (Decoded.ok.inj h).symm
  · obtain ⟨faults, hf⟩ := recordBound_of_not_converts name hc
    rw [hf] at h
    cases h

namespace ArgSpec

def isGiven (args : List (String × Scalar)) (spec : ArgSpec) : Bool :=
  (args.lookup spec.key).isSome

/-- A record of a declared argument: four times the value that is given for it, and a range whose
ends are the declared bounds, or nought and a million. All else in it is nought. -/
structure RecordedAs (args : List (String × Scalar)) (spec : ArgSpec) (r : CompiledArg) :
    Prop where
  key : r.key = spec.key
  given : ∃ v, args.lookup spec.key = some v ∧ v.toFloat = .ok r.value
  baseValue : r.baseValue = r.value
  base : r.base = r.value
  last : r.last = r.value
  min : r.min = (spec.min.getD (.int 0)).toBinary64
  max : r.max = (spec.max.getD (.int 1000000)).toBinary64
  step : r.step = .ofInt 0
  type : r.type = 0
  valueType : r.valueType = 0

theorem recordedAs_of_compiled {args : List (String × Scalar)} {spec : ArgSpec} {v : Scalar}
    {x : Binary64} {r : CompiledArg} (hv : args.lookup spec.key = some v)
    (hx : v.toFloat = .ok x) (h : spec.compiled x = .ok r) : spec.RecordedAs args r := by
  obtain ⟨f, high, hf, hh, rfl⟩ := Decoded.seq_eq_ok_iff.1 h
  obtain ⟨low, hl, rfl⟩ := Decoded.map_eq_ok_iff.1 hf
  refine ⟨rfl, ⟨v, hv, hx⟩, rfl, rfl, rfl, eq_of_recordBound hl, eq_of_recordBound hh, ?_, rfl, rfl⟩
  dsimp only

end ArgSpec

/-- The records are those of the declared arguments that are given, in order of declaration. -/
theorem compileArgs_records {args : List (String × Scalar)} {specs : List ArgSpec}
    {records : List CompiledArg} (h : compileArgs args specs = .ok records) :
    List.Forall₂ (ArgSpec.RecordedAs args) (specs.filter (·.isGiven args)) records := by
  induction specs generalizing records with
  | nil =>
    cases h
    exact .nil
  | cons spec specs ih =>
    rw [compileArgs] at h
    cases hl : args.lookup spec.key with
    | none =>
      rw [hl] at h
      rw [List.filter_cons_of_neg (by simp [ArgSpec.isGiven, hl])]
      exact ih h
    | some v =>
      rw [hl] at h
      rw [List.filter_cons_of_pos (by simp [ArgSpec.isGiven, hl])]
      obtain ⟨x, hx, h⟩ := bind_eq_ok_iff.1 h
      obtain ⟨r, hr, h⟩ := bind_eq_ok_iff.1 h
      obtain ⟨rest, hs, h⟩ := bind_eq_ok_iff.1 h
      cases h
      have hc := Decoded.toExcept_eq_ok_iff.1 (mapError_eq_ok_iff.1 hr)
      exact .cons (ArgSpec.recordedAs_of_compiled hl (mapError_eq_ok_iff.1 hx) hc) (ih hs)

theorem Capability.rule_of_compiled {c : Capability} {args : List (String × Scalar)}
    {rule : RuleFields} {s : CompiledSignal} (h : c.compiled args rule = .ok s) :
    s.rule = if c.isParametric then rule.compiled else {} := by
  obtain ⟨records, -, rfl⟩ := map_eq_ok_iff.1 h
  rfl

theorem Capability.records_of_compiled {c : Capability} {args : List (String × Scalar)}
    {rule : RuleFields} {s : CompiledSignal} (h : c.compiled args rule = .ok s) :
    List.Forall₂ (ArgSpec.RecordedAs args) (c.requiredArgs.filter (·.isGiven args))
      (s.args.getD []) := by
  obtain ⟨records, hr, h⟩ := bind_eq_ok_iff.1 h
  cases h
  have hf := compileArgs_records hr
  dsimp only
  split
  · next he =>
    -- nothing is declared, so that the list left out is an empty one
    rw [Bool.and_eq_true, List.isEmpty_iff, List.isEmpty_iff] at he
    rw [he.2]
    exact .nil
  · exact hf

end TradingSignals
