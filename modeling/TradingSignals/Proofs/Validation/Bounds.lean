import TradingSignals.Proofs.Build.ArgRange
import TradingSignals.Proofs.Number.Place

namespace TradingSignals

/-- A number lies within the bounds that are declared; one that is no number bounds nothing. -/
structure ArgSpec.Within (spec : ArgSpec) (n : Number) : Prop where
  min : ∀ bound, spec.min = some bound → ¬bound.isNan → bound.atMost n
  max : ∀ bound, spec.max = some bound → ¬bound.isNan → n.atMost bound

namespace ArgSpec

variable {spec : ArgSpec}

/-- Only the place of a number counts. -/
theorem Within.of_place {m n : Number} (h : spec.Within m) (hp : m.place = n.place) :
    spec.Within n := by
  refine ⟨?_, ?_⟩
  · intro bound hb hn
    have hm := h.min bound hb hn
    rwa [Number.atMost, hp] at hm
  · intro bound hb hn
    have hm := h.max bound hb hn
    rwa [Number.atMost, hp] at hm

/-- What is neither below the one bound nor above the other lies between them, if it is a
number. -/
theorem Keeps.within {x : Binary64} (h : spec.Keeps x) (hx : x ≠ .nan) :
    spec.Within (.float x) := by
  have hplace : x.place ≠ .nowhere := fun hp => hx (Binary64.place_eq_nowhere_iff.1 hp)
  have hbound : ∀ {bound : Number}, ¬bound.isNan → bound.place ≠ .nowhere := by
    intro bound hn hp
    exact hn (decide_eq_true hp)
  refine ⟨?_, ?_⟩
  · intro bound hb hn
    apply Place.atMost_of_not_lt _ (hbound hn) hplace
    exact h.min bound hb
  · intro bound hb hn
    apply Place.atMost_of_not_lt _ hplace (hbound hn)
    exact h.max bound hb

/-- The number given for an argument that must be one. -/
theorem number_of_passed {args : List (String × Scalar)} (h : spec.defects args = .ok [])
    (ho : spec.optional = false) (hk : spec.kind = .number) :
    ∃ v n, args.lookup spec.key = some v ∧ v.number? = some n ∧ n.converts ∧
      spec.Keeps n.toBinary64 := by
  obtain ⟨v, hv, hc⟩ := converts_of_passed h ho hk
  obtain ⟨x, hx⟩ := Scalar.toFloat_succeeds_iff.2 hc
  have hkeeps := keeps_of_passed h ho hk hv hx
  have hd : spec.valueDefects v = .ok [] := by simpa [defects, ho, hv, hk] using h
  unfold valueDefects at hd
  cases hn : v.number? with
  | none =>
    rw [hn] at hd
    cases hd
  | some n =>
    have hfloat : n.toFloat = .ok x := (Scalar.toFloat_of_number hn).symm.trans hx
    have hconv : n.converts := by
      by_contra hnot
      rw [Number.toFloat_of_not_converts hnot] at hfloat
      cases hfloat
    rw [Number.toFloat_of_converts hconv, Except.ok.injEq] at hfloat
    exact ⟨v, n, hv, hn, hconv, hfloat ▸ hkeeps⟩

end ArgSpec

/-- A number is no number exactly when its nearest double is none. -/
theorem Number.toBinary64_ne_nan {n : Number} (h : ¬n.isNan) : n.toBinary64 ≠ .nan := by
  intro hx
  cases n with
  | int v =>
    rw [toBinary64, Binary64.ofInt, Binary64.ofRatio] at hx
    split at hx
    · cases hx
    · cases hx
  | float x => exact h (decide_eq_true (Binary64.place_eq_nowhere_iff.2 hx))

/-- In a document that passes the check, every number that must be given is given as one, with a
nearest double that lies within the declared bounds. So does the number itself when it is a double,
as every whole number of at most 53 bits is. -/
theorem StrategyDocument.number_within_bounds {catalog : Catalog} {d : StrategyDocument}
    (h : d.problems catalog = .ok []) {list : SignalList} {root : Nat} {p : List Nat}
    {m : SignalNode} (hm : d.signal? list root p = some m) :
    ∃ c, catalog.lookup m.catalogId = some c ∧
      ∀ spec ∈ c.requiredArgs, spec.optional = false → spec.kind = .number →
        ∃ v n, m.args.lookup spec.key = some v ∧ v.number? = some n ∧ n.converts ∧
          (¬n.isNan → spec.Within (.float n.toBinary64) ∧ (n.Exact → spec.Within n) ∧
            ∀ k, n = .int k → k.natAbs ≤ Nat.pow 2 53 → spec.Within n) := by
  obtain ⟨-, -, hf⟩ := passed h
  obtain ⟨n, hn, hp⟩ := Option.bind_eq_some_iff.1 hm
  obtain ⟨c, hl, hd⟩ := SignalNode.passed_at (hf list n (List.mem_of_getElem? hn)) hp
  refine ⟨c, hl, ?_⟩
  intro spec hs ho hk
  have hspec := (Capability.passed_iff.1 hd).1 spec hs
  obtain ⟨v, n, hv, hnum, hconv, hkeeps⟩ := ArgSpec.number_of_passed hspec ho hk
  refine ⟨v, n, hv, hnum, hconv, ?_⟩
  intro hnan
  have hnear : spec.Within (.float n.toBinary64) :=
    hkeeps.within (Number.toBinary64_ne_nan hnan)
  have hexact : n.Exact → spec.Within n := fun he => hnear.of_place he.place_eq
  refine ⟨hnear, hexact, ?_⟩
  rintro k rfl hle
  exact hexact (Number.exact_int_of_le hle)

/-- A number between the two bounds it is given. -/
def Catalog.band (least greatest : Number) : Catalog :=
  .ofList [{ id := "band", name := "Band", signalType := "SignalValueBand",
             requiredArgs := [{ key := "Level", min := some least, max := some greatest }] }]

/-- A level, and another one below it. -/
def SignalNode.levels (outer inner : Scalar) : SignalNode where
  catalogId := "band"
  args := [("Level", outer)]
  children := [{ catalogId := "Band", args := [("Level", inner)] }]

/-- The inner level lies on its bound; the outer one is a fraction. -/
theorem inner_level_within_bounds :
    let bound : Number := .int (Nat.pow 2 53)
    let d := StrategyDocument.single
      (.levels (.float (.ofDecimal false 25 (-1))) (.int (Nat.pow 2 53)))
    d.problems (.band (.int 0) bound) = .ok [] ∧
      ∃ c, (Catalog.band (.int 0) bound).lookup "Band" = some c ∧
        ∃ spec ∈ c.requiredArgs, spec.max = some bound ∧ spec.Within bound := by
  intro bound d
  have hb : d.problems (.band (.int 0) bound) = .ok [] := by decide +kernel
  have hinner : d.signal? .entry 0 [0] = some _ := rfl
  obtain ⟨c, hl, hall⟩ := StrategyDocument.number_within_bounds hb hinner
  have hspec : ∀ c, (Catalog.band (.int 0) bound).lookup "Band" = some c →
      c.requiredArgs = [{ key := "Level", min := some (.int 0), max := some bound }] := by
    intro c hc
    have hband : ((Catalog.band (.int 0) bound).lookup "Band").map (·.requiredArgs) =
        some [{ key := "Level", min := some (.int 0), max := some bound }] := by
      decide +kernel
    rw [hc] at hband
    exact Option.some.inj hband
  have hmem : { key := "Level", min := some (.int 0), max := some bound } ∈ c.requiredArgs := by
    rw [hspec c hl]
    exact List.mem_cons_self
  obtain ⟨v, n, hv, hn, -, hin⟩ := hall _ hmem rfl rfl
  cases hv
  cases hn
  obtain ⟨-, -, hwhole⟩ := hin (by decide)
  exact ⟨hb, c, hl, _, hmem, rfl, hwhole _ rfl (by decide)⟩

/-- A level that is rounded onto its bound is let through, and so is one that is no number. A bound
that is no number lets every level through. -/
theorem levels_past_bounds_pass :
    let catalog := Catalog.band (.int 1) (.int (Nat.pow 2 53))
    let past : Int := Nat.pow 2 53 + 1
    ((StrategyDocument.single (.levels (.int 1) (.int past))).problems catalog = .ok [] ∧
      ¬(Number.int past).atMost (.int (Nat.pow 2 53))) ∧
    ((StrategyDocument.single (.levels (.int 1) (.float .nan))).problems catalog = .ok [] ∧
      ¬(Number.int 1).atMost (.float .nan)) ∧
    (StrategyDocument.single (.levels (.int 1) (.int 1))).problems
        (.band (.float .nan) (.int 1)) = .ok [] ∧
      ¬(Number.float .nan).atMost (.int 1) := by
  decide +kernel

end TradingSignals
