import TradingSignals.Proofs.Number.Conversion
import TradingSignals.Proofs.Success
import TradingSignals.Validation.Defect

namespace TradingSignals

/-- A check that comes to `a` under a condition and without it meets a number too large. -/
structure Settles {α : Type} (p : Prop) (r : Except ConversionFault α) (a : α) : Prop where
  ok : p → r = .ok a
  tooLarge : ¬p → r = .error .tooLarge

namespace Settles

variable {α β : Type} {p q : Prop} {r : Except ConversionFault α} {a : α}

/-- A check that cannot fail. -/
theorem pure (hp : p) (a : α) : Settles p (.ok a) a where
  ok _ := rfl
  tooLarge h := absurd hp h

theorem congr (h : Settles p r a) (hp : q ↔ p) : Settles q r a := by
  rw [hp]
  exact h

theorem map (h : Settles p r a) (f : α → β) : Settles p (f <$> r) (f a) := by
  constructor
  · intro hp
    rw [h.ok hp]
    rfl
  · intro hp
    rw [h.tooLarge hp]
    rfl

theorem bind {f : α → Except ConversionFault β} {b : β} (h : Settles p r a)
    (hf : Settles q (f a) b) : Settles (p ∧ q) (r >>= f) b := by
  by_cases hp : p
  · have hr : r >>= f = f a := by
      rw [h.ok hp]
      rfl
    rw [hr]
    exact hf.congr (and_iff_right hp)
  · refine ⟨fun hpq => absurd hpq.1 hp, fun _ => ?_⟩
    rw [h.tooLarge hp]
    rfl

theorem gathered {l : List α} {f : α → Except ConversionFault (List β)} {g : α → List β}
    {P : α → Prop} (h : ∀ x ∈ l, Settles (P x) (f x) (g x)) :
    Settles (∀ x ∈ l, P x) (gather f l) (l.flatMap g) := by
  induction l with
  | nil => exact pure (fun _ hx => nomatch hx) []
  | cons x l ih =>
    have hx := h x List.mem_cons_self
    have hl : Settles (∀ y ∈ l, P y) (gather f l) (l.flatMap g) := by
      apply ih
      intro y hy
      exact h y (List.mem_cons_of_mem x hy)
    rw [List.flatMap_cons, List.forall_mem_cons]
    exact hx.bind (hl.map (g x ++ ·))

/-- The condition is needed, too. -/
theorem succeeds_iff (h : Settles p r a) : Succeeds r ↔ p := by
  constructor
  · intro h
    obtain ⟨b, hb⟩ := h
    by_cases hp : p
    · exact hp
    · rw [h.tooLarge hp] at hb
      cases hb
  · intro hp
    exact ⟨a, h.ok hp⟩

end Settles

theorem Number.toFloat_settles (n : Number) : Settles n.converts n.toFloat n.toBinary64 :=
  ⟨Number.toFloat_of_converts, Number.toFloat_of_not_converts⟩

/-- One entry under a condition, and else none. -/
def reportIf {α : Type} (p : Prop) [Decidable p] (a : α) : List α := if p then [a] else []

namespace ArgSpec

/-- The value that is looked into: the one of a number that must be there. -/
def checked? (args : List (String × Scalar)) (spec : ArgSpec) : Option Scalar :=
  if spec.optional = false ∧ spec.kind = .number then args.lookup spec.key else none

def number? (args : List (String × Scalar)) (spec : ArgSpec) : Option Number :=
  (spec.checked? args).bind Scalar.number?

/-- The minimum, when the double nearest to the value lies below it. -/
def brokenMin? (args : List (String × Scalar)) (spec : ArgSpec) : Option Number :=
  spec.min.filter fun bound =>
    (spec.number? args).any fun n => n.toBinary64.place.lt bound.place

/-- The maximum, when the double nearest to the value lies above it. -/
def brokenMax? (args : List (String × Scalar)) (spec : ArgSpec) : Option Number :=
  spec.max.filter fun bound =>
    (spec.number? args).any fun n => bound.place.lt n.toBinary64.place

/-- What is wrong with one of the declared arguments. -/
def lacks (args : List (String × Scalar)) (spec : ArgSpec) : List Defect :=
  reportIf (spec.optional = false ∧ args.lookup spec.key = none) (.missingArg spec.key) ++
  reportIf ((spec.checked? args).isSome ∧ spec.number? args = none) (.noNumber spec.key) ++
  (spec.brokenMin? args).toList.map (fun bound => .below spec.key bound.toBinary64) ++
  (spec.brokenMax? args).toList.map (fun bound => .above spec.key bound.toBinary64)

/-- The numbers that have to be turned into doubles: the value, and the bounds it breaks. -/
structure Checkable (args : List (String × Scalar)) (spec : ArgSpec) : Prop where
  value : ∀ n, spec.number? args = some n → n.converts
  min : ∀ bound, spec.brokenMin? args = some bound → bound.converts
  max : ∀ bound, spec.brokenMax? args = some bound → bound.converts

theorem boundDefects_settles (broken : Number → Bool) (defect : Binary64 → Defect)
    (bound? : Option Number) :
    Settles (∀ bound, bound?.filter broken = some bound → bound.converts)
      (boundDefects broken defect bound?)
      ((bound?.filter broken).toList.map fun bound => defect bound.toBinary64) := by
  cases bound? with
  | none => exact Settles.pure (fun _ hb => nomatch hb) []
  | some bound =>
    by_cases h : broken bound = true
    · rw [boundDefects, if_pos h, Option.filter_some_pos h]
      have hs := bound.toFloat_settles.map fun x => [defect x]
      apply hs.congr
      simp
    · rw [boundDefects, if_neg h, Option.filter_some_neg (Bool.not_eq_true _ ▸ h)]
      exact Settles.pure (fun _ hb => nomatch hb) []

variable {args : List (String × Scalar)} {spec : ArgSpec}

theorem brokenMin?_of_number {n : Number} (h : spec.number? args = some n) :
    spec.brokenMin? args = spec.min.filter fun bound => n.toBinary64.place.lt bound.place := by
  rw [brokenMin?, h]
  rfl

theorem brokenMax?_of_number {n : Number} (h : spec.number? args = some n) :
    spec.brokenMax? args = spec.max.filter fun bound => bound.place.lt n.toBinary64.place := by
  rw [brokenMax?, h]
  rfl

/-- Where there is no number, no bound is broken. -/
theorem broken_of_no_number (h : spec.number? args = none) :
    spec.brokenMin? args = none ∧ spec.brokenMax? args = none := by
  rw [brokenMin?, brokenMax?, h]
  simp

theorem checkable_of_no_number (h : spec.number? args = none) : spec.Checkable args := by
  obtain ⟨hl, hh⟩ := broken_of_no_number h
  refine ⟨fun n hn => ?_, fun b hb => ?_, fun b hb => ?_⟩
  · cases h.symm.trans hn
  · cases hl.symm.trans hb
  · cases hh.symm.trans hb

theorem checkable_of_number {n : Number} (h : spec.number? args = some n) :
    spec.Checkable args ↔ n.converts ∧
      (∀ bound, spec.brokenMin? args = some bound → bound.converts) ∧
      (∀ bound, spec.brokenMax? args = some bound → bound.converts) := by
  constructor
  · intro h
    obtain ⟨hn, hl, hh⟩ := h
    exact ⟨hn n h, hl, hh⟩
  · intro h
    obtain ⟨hn, hl, hh⟩ := h
    exact ⟨fun m hm => Option.some.inj (h.symm.trans hm) ▸ hn, hl, hh⟩

theorem valueDefects_settles {v : Scalar} (hv : spec.checked? args = some v) :
    Settles (spec.Checkable args) (spec.valueDefects v)
      (reportIf (spec.number? args = none) (.noNumber spec.key) ++
        (spec.brokenMin? args).toList.map (fun bound => .below spec.key bound.toBinary64) ++
        (spec.brokenMax? args).toList.map (fun bound => .above spec.key bound.toBinary64)) := by
  have hn : spec.number? args = v.number? := by rw [number?, hv, Option.bind_some]
  unfold valueDefects
  cases h : v.number? with
  | none =>
    have hnone := hn.trans h
    obtain ⟨hl, hh⟩ := broken_of_no_number hnone
    rw [hl, hh, hnone]
    exact Settles.pure (checkable_of_no_number hnone) _
  | some n =>
    have hsome := hn.trans h
    rw [checkable_of_number hsome, hsome, brokenMin?_of_number hsome,
      brokenMax?_of_number hsome]
    have hl := boundDefects_settles (fun bound => n.toBinary64.place.lt bound.place)
      (.below spec.key) spec.min
    have hh := boundDefects_settles (fun bound => bound.place.lt n.toBinary64.place)
      (.above spec.key) spec.max
    exact n.toFloat_settles.bind (hl.bind (hh.map _))

theorem number?_of_unchecked (h : spec.checked? args = none) : spec.number? args = none := by
  rw [number?, h]
  rfl

/-- An argument that is not looked into cannot be too large. -/
theorem lacks_of_unchecked (h : spec.checked? args = none) :
    spec.Checkable args ∧ spec.lacks args =
      reportIf (spec.optional = false ∧ args.lookup spec.key = none) (.missingArg spec.key) := by
  have hn := number?_of_unchecked h
  obtain ⟨hl, hh⟩ := broken_of_no_number hn
  refine ⟨checkable_of_no_number hn, ?_⟩
  simp [lacks, h, hl, hh, reportIf]

theorem defects_settles : Settles (spec.Checkable args) (spec.defects args) (spec.lacks args) := by
  by_cases ho : spec.optional = true
  · have hc : spec.checked? args = none := by simp [checked?, ho]
    obtain ⟨hp, hs⟩ := lacks_of_unchecked hc
    rw [hs, defects, if_pos ho, reportIf, if_neg (by simp [ho])]
    exact Settles.pure hp []
  have hf : spec.optional = false := Bool.not_eq_true _ ▸ ho
  cases hl : args.lookup spec.key with
  | none =>
    have hc : spec.checked? args = none := by simp [checked?, hl]
    obtain ⟨hp, hs⟩ := lacks_of_unchecked hc
    rw [hs, defects, if_neg ho, hl, reportIf, if_pos ⟨hf, rfl⟩]
    exact Settles.pure hp [Defect.missingArg spec.key]
  | some v =>
    by_cases hk : spec.kind = .number
    · have hc : spec.checked? args = some v := by simp [checked?, hf, hk, hl]
      have hs := valueDefects_settles hc
      simpa [defects, lacks, hf, hl, hk, hc, reportIf] using hs
    · have hc : spec.checked? args = none := by simp [checked?, hk]
      obtain ⟨hp, hs⟩ := lacks_of_unchecked hc
      rw [hs, defects, if_neg ho, hl, reportIf, if_neg (by simp)]
      simp only [hk, if_false]
      exact Settles.pure hp []

end ArgSpec

/-- What is wrong with the first rule, and with the operator that joins it to the second. -/
def RuleFields.lacks (r : RuleFields) : List Defect :=
  reportIf (r.mode1 ∈ [none, some ""]) .noMode ++
  reportIf (r.mode1 ∉ [none, some "", some "Signal", some "Value"]) .otherMode ++
  reportIf (r.operation1 ∈ [none, some ""]) .noOperation ++
  reportIf (r.crossOp ∈ [none, some ""]) .noCrossOp

theorem given?_eq_none {field : Option String} :
    given? field = none ↔ field ∈ [none, some ""] := by
  cases field <;> simp [given?]

theorem given?_of_ne {s : String} (h : s ≠ "") : given? (some s) = some s :=
  Option.filter_some_pos (by simpa using h)

theorem RuleFields.defects_eq_lacks (r : RuleFields) : r.defects = r.lacks := by
  simp only [defects, lacks, reportIf, Option.isNone_iff_eq_none, given?_eq_none]
  congr 2
  cases r.mode1 with
  | none => rfl
  | some mode =>
    by_cases he : mode = ""
    · rw [he]
      rfl
    · have hm : mode ∈ ruleModes ↔ some mode ∈ [none, some "", some "Signal", some "Value"] := by
        simp [ruleModes, signalMode, he]
      rw [given?_of_ne he, if_neg (show some mode ∉ [none, some ""] by simp [he])]
      by_cases h : mode ∈ ruleModes
      · rw [if_neg (fun hn => hn (hm.1 h))]
        exact if_pos h
      · rw [if_pos (mt hm.2 h)]
        exact if_neg h

/-- What a signal that is run as a capability lacks, part by part. -/
def Capability.lacks (c : Capability) (args : List (String × Scalar)) (children : Nat)
    (rule : RuleFields) : List Defect :=
  c.requiredArgs.flatMap (ArgSpec.lacks args) ++
  reportIf (children < c.requiredChildren) (.fewChildren c.requiredChildren children) ++
  if c.isParametric then rule.lacks else []

theorem Capability.defects_settles {c : Capability} {args : List (String × Scalar)}
    {children : Nat} {rule : RuleFields} :
    Settles (∀ spec ∈ c.requiredArgs, spec.Checkable args) (c.defects args children rule)
      (c.lacks args children rule) := by
  have ha : Settles (∀ spec ∈ c.requiredArgs, spec.Checkable args)
      (gather (ArgSpec.defects args) c.requiredArgs)
      (c.requiredArgs.flatMap (ArgSpec.lacks args)) := by
    apply Settles.gathered
    intro spec _
    exact ArgSpec.defects_settles
  rw [lacks, ← RuleFields.defects_eq_lacks]
  exact ha.map fun own => own ++
    reportIf (children < c.requiredChildren) (.fewChildren c.requiredChildren children) ++
    if c.isParametric then rule.defects else []

end TradingSignals
