import TradingSignals.Catalog.BuiltIn
import TradingSignals.Proofs.Signal.Nesting
import TradingSignals.Proofs.Signal.Records

namespace TradingSignals

theorem CompiledArg.same_self {a : CompiledArg} (h : ∀ x ∈ a.floats, x.isFinite) : a.same a := by
  have hsame : ∀ x ∈ a.floats, x.same x := fun x hx => Binary64.same_self (h x hx)
  simp only [floats, List.forall_mem_cons] at hsame
  simp [same, hsame]

theorem sameCompiledArgs_self {args : List CompiledArg}
    (h : ∀ a ∈ args, ∀ x ∈ a.floats, x.isFinite) : sameCompiledArgs args args := by
  induction args with
  | nil => rfl
  | cons a args ih =>
    rw [List.forall_mem_cons] at h
    rw [sameCompiledArgs, CompiledArg.same_self h.1, ih h.2]
    rfl

theorem sameCompiledSignals_map_iff {f : CompiledSignal → CompiledSignal}
    {signals : List CompiledSignal} :
    sameCompiledSignals (signals.map f) signals ↔ ∀ s ∈ signals, (f s).same s := by
  induction signals with
  | nil => simp [sameCompiledSignals]
  | cons s signals ih =>
    rw [List.map_cons, sameCompiledSignals, Bool.and_eq_true, ih, List.forall_mem_cons]

/-- Without a first mode there is nothing else of a rule. -/
def CompiledRule.Whole (r : CompiledRule) : Prop :=
  r.mode1 = none → r.operation1 = none ∧ r.crossOp = none ∧ r.mode2 = none ∧
    r.operation2 = none ∧ r.entry = none ∧ r.exit = none

theorem CompiledRule.reread_eq_self_iff {r : CompiledRule} : r.reread = r ↔ r.Whole := by
  obtain ⟨mode1, operation1, crossOp, mode2, operation2, entry, exit⟩ := r
  cases mode1 with
  | none => simp [reread, Whole, eq_comm]
  | some mode1 => simp [reread, Whole]

theorem CompiledRule.toFields_reread {spelling : Spelling} {r : CompiledRule} :
    r.reread.toFields spelling = r.toFields spelling := by
  unfold reread
  split
  · next h =>
    rw [toFields, toFields, if_pos h]
    rfl
  · rfl

namespace CompiledSignal

/-- Every rule of a signal, and of those below it, is whole. -/
def RulesWhole (s : CompiledSignal) : Prop := s.Everywhere fun t => t.rule.Whole

theorem reread_same_iff {s : CompiledSignal} (h : s.AllFinite) :
    s.reread.same s ↔ s.RulesWhole := by
  induction s using CompiledSignal.induct with
  | node s ih =>
    obtain ⟨hown, hbelow⟩ := everywhere_iff.1 h
    rw [RulesWhole, everywhere_iff, ← CompiledRule.reread_eq_self_iff, reread_eq]
    obtain ⟨signalType, key, typeCode, args, children, rule, marketNumber, required, symbol⟩ := s
    have hargs : sameOption sameCompiledArgs args args := by
      cases args with
      | none => rfl
      | some args => exact sameCompiledArgs_self hown
    have hchildren : sameChildren (children.map (List.map reread)) children ↔
        ∀ t ∈ children.getD [], t.RulesWhole := by
      cases children with
      | none => simp [sameChildren]
      | some signals =>
        rw [Option.map_some, sameChildren, sameCompiledSignals_map_iff]
        exact forall₂_congr fun t ht => ih t ht (hbelow t ht)
    rw [same]
    simp only [Bool.and_eq_true, beq_self_eq_true, true_and, hargs, hchildren, beq_iff_eq,
      and_true]
    exact and_comm

/-- What is lost in reading back is not written anyway. -/
theorem toWire_reread {s : CompiledSignal} : s.reread.toWire = s.toWire := by
  induction s using CompiledSignal.induct with
  | node s ih =>
    have hchildren : ∀ {signals}, s.children = some signals →
        (signals.map reread).map toWire = signals.map toWire := by
      intro signals hs
      rw [hs] at ih
      rw [List.map_map]
      exact List.map_congr_left ih
    rw [toWire_eq, toWire_eq, reread_eq, wireFields, wireFields, CompiledRule.toFields_reread]
    cases hs : s.children with
    | none => simp
    | some signals => simp [hchildren hs]

/-- The compiler gives a signal all of a rule or nothing of it. -/
theorem rulesWhole_of_compile {catalog : Catalog} {n : SignalNode} {s : CompiledSignal}
    (h : n.compile catalog = .ok s) : s.RulesWhole := by
  intro p t ht
  obtain ⟨m, -, hm⟩ := exists_of_rel_right (SignalNode.compile_rel h p) ht
  obtain ⟨id, args, children, rule⟩ := m
  obtain ⟨c, own, below, -, ho, -, rfl⟩ := SignalNode.compile_eq_ok_iff.1 hm
  have hrule := Capability.rule_of_compiled ho
  show own.rule.Whole
  by_cases hp : c.isParametric
  · rw [if_pos hp] at hrule
    rw [hrule]
    exact nofun
  · rw [if_neg hp] at hrule
    rw [hrule]
    exact fun _ => ⟨rfl, rfl, rfl, rfl, rfl, rfl⟩

/-- A signal with finite doubles that is not too deep is written, and what is read back from its
wire form is the same signal just when all its rules are whole; in any case it is written alike. A
signal that is too deep is not written. The compiler makes only whole rules. No signal is too deep
that was read from a text, or compiled from a document that was. -/
theorem wire_round_trip :
    (∀ s : CompiledSignal, s.AllFinite → s.fits →
      ∃ w t, s.toWire? = .ok w ∧ Decode.compiledSignal w = .ok t ∧ (t.same s ↔ s.RulesWhole) ∧
        t.toWire? = .ok w) ∧
    (∀ s : CompiledSignal, ¬s.fits → s.toWire? = .error .signal) ∧
    (∀ (catalog : Catalog) (n : SignalNode) (s : CompiledSignal),
      n.compile catalog = .ok s → s.RulesWhole) ∧
    (∀ (text : String) (s : CompiledSignal), read text = .ok s → s.fits) ∧
    ∀ (text : String) (d : StrategyDocument) (list : SignalList) (catalog : Catalog),
      StrategyDocument.read text = .ok d → ∀ n ∈ d.signals list, ∀ s : CompiledSignal,
        n.compile catalog = .ok s → s.fits := by
  refine ⟨?_, ?_, ?_, ?_, ?_⟩
  · intro s hf hfits
    have hwire : s.toWire? = .ok s.toWire := if_pos hfits
    have hagain : s.reread.toWire? = .ok s.toWire := by
      rw [toWire?, fits, toWire_reread]
      exact hwire
    exact ⟨s.toWire, s.reread, hwire, Decode.compiledSignal_toWire hf, reread_same_iff hf, hagain⟩
  · intro s hdeep
    exact if_neg hdeep
  · intro catalog n s h
    exact rulesWhole_of_compile h
  · intro text s h
    exact fits_of_read h
  · intro text d list catalog hd n hn s h
    exact fits_iff.2 ((depth_toWire_le_of_read hd hn h).trans (by decide))

/-- An operator without a mode is lost. -/
theorem stray_operator_lost :
    ∃ s, read "\x7b\"$type\": \"SignalValueRAW\", \"Key\": \"Close\", \"Type\": 2, \"R1Op\": \">\"\x7d" =
        .ok s ∧
      ∃ w t, s.toWire? = .ok w ∧ Decode.compiledSignal w = .ok t ∧ ¬t.same s ∧
        t.toWire? = .ok w := by
  have hread : ∃ s, read
      "\x7b\"$type\": \"SignalValueRAW\", \"Key\": \"Close\", \"Type\": 2, \"R1Op\": \">\"\x7d" = .ok s ∧
        (s.args.isNone && s.children.isNone && s.rule == { operation1 := some ">" }) := by
    rw [← any_toOption_iff]
    decide +kernel
  obtain ⟨s, hs, hp⟩ := hread
  simp only [Bool.and_eq_true, beq_iff_eq, Option.isNone_iff_eq_none, and_assoc] at hp
  obtain ⟨hargs, hchildren, hrule⟩ := hp
  have hfinite : s.AllFinite := by
    rw [AllFinite, everywhere_iff, hargs, hchildren]
    exact ⟨fun a ha => absurd ha List.not_mem_nil, fun t ht => absurd ht List.not_mem_nil⟩
  obtain ⟨hrounds, -, -, hfits, -⟩ := wire_round_trip
  obtain ⟨w, t, hw, ht, hsame, hagain⟩ := hrounds s hfinite (hfits _ s hs)
  refine ⟨s, hs, w, t, hw, ht, ?_, hagain⟩
  intro h
  have hwhole : s.rule.Whole := (everywhere_iff.1 (hsame.1 h)).1
  rw [hrule] at hwhole
  exact absurd (hwhole rfl).1 nofun

end CompiledSignal

/-- A price with so many signals above it. -/
def closeUnder : Nat → SignalNode
  | 0 => { catalogId := "raw.close" }
  | k + 1 => { catalogId := "raw.close", children := [closeUnder k] }

theorem compile_close {nodes : List SignalNode} {below : List CompiledSignal}
    (hb : compileSignals .builtIn nodes = .ok below) (hf : ∀ t ∈ below, t.AllFinite) :
    ∃ s, (SignalNode.mk "raw.close" [] nodes {}).compile .builtIn = .ok s ∧ s.AllFinite ∧
      s.children.getD [] = below := by
  obtain ⟨c, hl, hr⟩ : ∃ c, Catalog.builtIn.lookup "raw.close" = some c ∧ c.requiredArgs = [] := by
    have hc : (Catalog.builtIn.lookup "raw.close").any (·.requiredArgs.isEmpty) := by
      decide +kernel
    obtain ⟨c, hl, hr⟩ := (Option.any_eq_true _ _).1 hc
    exact ⟨c, hl, List.isEmpty_iff.1 hr⟩
  obtain ⟨own, ho, hargs⟩ : ∃ own, c.compiled [] {} = .ok own ∧ own.args = none := by
    rw [Capability.compiled, hr]
    exact ⟨_, rfl, rfl⟩
  have hs := SignalNode.compile_eq_ok_iff.2 ⟨c, own, below, hl, ho, hb, rfl⟩
  have hchildren := SignalNode.compileSignals_of_compile hs
  rw [hb, Except.ok.injEq] at hchildren
  refine ⟨_, hs, CompiledSignal.everywhere_iff.2 ⟨?_, ?_⟩, hchildren.symm⟩
  · dsimp only
    rw [hargs]
    exact fun a ha => absurd ha List.not_mem_nil
  · rw [← hchildren]
    exact hf

theorem compile_closeUnder (k : Nat) :
    ∃ s, (closeUnder k).compile .builtIn = .ok s ∧ s.AllFinite ∧ 2 * k + 2 ≤ s.toWire.depth := by
  induction k with
  | zero =>
    have hb : compileSignals .builtIn [] = .ok [] := rfl
    obtain ⟨s, hs, hf, -⟩ := compile_close hb fun t ht => absurd ht List.not_mem_nil
    exact ⟨s, hs, hf, CompiledSignal.two_le_depth_toWire⟩
  | succ k ih =>
    obtain ⟨t, ht, hft, hdepth⟩ := ih
    have hb : compileSignals .builtIn [closeUnder k] = .ok [t] :=
      compileSignals_eq_ok_iff.2 (.cons ht .nil)
    obtain ⟨s, hs, hf, hchildren⟩ := compile_close hb (by simpa using hft)
    have hlt : t.toWire.depth + 2 ≤ s.toWire.depth :=
      CompiledSignal.depth_toWire_child_le (by rw [hchildren]; exact List.mem_cons_self)
    exact ⟨s, hs, hf, by omega⟩

theorem deep_signal_not_written :
    ∃ s, (closeUnder 127).compile .builtIn = .ok s ∧ s.AllFinite ∧ s.RulesWhole ∧
      ¬∃ w, s.toWire? = .ok w := by
  obtain ⟨s, hs, hfinite, hdepth⟩ := compile_closeUnder 127
  refine ⟨s, hs, hfinite, CompiledSignal.rulesWhole_of_compile hs, ?_⟩
  rintro ⟨w, hw⟩
  have hdeep : ¬s.fits := by
    rw [CompiledSignal.fits_iff]
    omega
  rw [CompiledSignal.toWire?, if_neg hdeep] at hw
  cases hw

end TradingSignals
