import TradingSignals.Proofs.Catalog.Bounds
import TradingSignals.Proofs.Signal.Records
import TradingSignals.Proofs.Signal.Wire

namespace TradingSignals

/-- A code found in a table, or the one that stands for the rest. -/
theorem code_mem {entries : List (String × Int)} {k : String} {other : Int} :
    (entries.lookup k).getD other ∈ other :: entries.map Prod.snd := by
  cases h : entries.lookup k with
  | none => exact List.mem_cons_self
  | some n => exact List.mem_cons_of_mem _ (List.mem_map_of_mem (mem_of_lookup h))

theorem signalTypeCode_short (signalType : String) :
    (intText (signalTypeCode signalType)).length ≤ maxDigits := by
  have hall : ∀ n ∈ 2 :: signalTypeCodes.map Prod.snd, (intText n).length ≤ maxDigits := by decide
  exact hall _ code_mem

theorem crossOpCode_short (operator : String) :
    (intText (crossOpCode operator)).length ≤ maxDigits := by
  have hall : ∀ n ∈ 0 :: crossOpCodes.map Prod.snd, (intText n).length ≤ maxDigits := by decide
  exact hall _ code_mem

theorem ruleModeCode_short (mode : Option String) :
    (intText (ruleModeCode mode)).length ≤ maxDigits := by
  unfold ruleModeCode
  split <;> decide

theorem exists_compiled_of_mem {args : List (String × Scalar)} {specs : List ArgSpec}
    {records : List CompiledArg} {r : CompiledArg} (h : compileArgs args specs = .ok records)
    (hr : r ∈ records) : ∃ spec ∈ specs, ∃ x, spec.compiled x = .ok r := by
  induction specs generalizing records with
  | nil =>
    cases h
    cases hr
  | cons spec specs ih =>
    have hlater : ∀ {rest}, compileArgs args specs = .ok rest → r ∈ rest →
        ∃ spec' ∈ spec :: specs, ∃ x, spec'.compiled x = .ok r := by
      intro rest hs hm
      obtain ⟨spec', hmem, hc⟩ := ih hs hm
      exact ⟨spec', List.mem_cons_of_mem _ hmem, hc⟩
    rw [compileArgs] at h
    cases hl : args.lookup spec.key with
    | none =>
      rw [hl] at h
      exact hlater h hr
    | some v =>
      rw [hl] at h
      obtain ⟨x, -, h⟩ := bind_eq_ok_iff.1 h
      obtain ⟨first, hf, h⟩ := bind_eq_ok_iff.1 h
      obtain ⟨rest, hs, h⟩ := bind_eq_ok_iff.1 h
      cases h
      rcases List.mem_cons.1 hr with rfl | hm
      · exact ⟨spec, List.mem_cons_self, x, Decoded.toExcept_eq_ok_iff.1 (mapError_eq_ok_iff.1 hf)⟩
      · exact hlater hs hm

theorem ArgSpec.intsFit_of_compiled {spec : ArgSpec} {x : Binary64} {r : CompiledArg}
    (h : spec.compiled x = .ok r) : (r.toJson .wire).IntsFit := by
  obtain ⟨f, high, hf, -, rfl⟩ := Decoded.seq_eq_ok_iff.1 h
  obtain ⟨low, -, rfl⟩ := Decoded.map_eq_ok_iff.1 hf
  have hzero : (intText 0).length ≤ maxDigits := by decide
  rw [CompiledArg.toJson, JsonTree.intsFit_object_iff]
  simp [JsonTree.IntsFit, JsonTree.ints, hzero]

theorem RuleFields.intsFit_compiled (r : RuleFields) :
    ∀ f ∈ r.compiled.toFields .wire, f.2.IntsFit := by
  rw [compiled, CompiledRule.toFields, if_neg (by simp)]
  cases r.operation2 <;>
    simp [Json.ofOption, Json.ofInt?, Json.ofText?, Json.ofBool?, JsonTree.IntsFit, JsonTree.ints,
      ruleModeCode_short, crossOpCode_short]

namespace CompiledSignal

/-- The whole numbers of a signal as the compiler puts them. -/
structure Coded (s : CompiledSignal) : Prop where
  typeCode : (intText s.typeCode).length ≤ maxDigits
  args : ∀ a ∈ s.args.getD [], (a.toJson .wire).IntsFit
  rule : ∀ f ∈ s.rule.toFields .wire, f.2.IntsFit
  marketNumber : (intText s.marketNumber).length ≤ maxDigits
  symbol : (s.symbol.toJson .wire).IntsFit

theorem intsFit_toWire {s : CompiledSignal} (h : s.Everywhere Coded) : s.toWire.IntsFit := by
  induction s using CompiledSignal.induct with
  | node s ih =>
    obtain ⟨hown, hbelow⟩ := everywhere_iff.1 h
    have hargs : ∀ args, s.args = some args →
        (JsonTree.array (args.map fun a => (a.toJson .wire).finite)).IntsFit := by
      intro args ha
      rw [JsonTree.intsFit_array_iff, List.forall_mem_map]
      intro a hm
      exact JsonTree.intsFit_finite_iff.2 (hown.args a (by rw [ha]; exact hm))
    have hchildren : ∀ signals, s.children = some signals →
        (JsonTree.array (signals.map toWire)).IntsFit := by
      intro signals hc
      rw [JsonTree.intsFit_array_iff, List.forall_mem_map]
      intro t ht
      have hmem : t ∈ s.children.getD [] := by rw [hc]; exact ht
      exact ih t hmem (hbelow t hmem)
    have hint : ∀ {n : Int}, (intText n).length ≤ maxDigits → (JsonTree.int n : Json).IntsFit := by
      intro n hn m hm
      rwa [List.mem_singleton.1 hm]
    rw [toWire_eq, JsonTree.intsFit_object_iff, wireFields]
    simp only [List.forall_mem_cons, List.forall_mem_append, List.forall_mem_map, Option.mem_toList]
    refine ⟨nofun, nofun, hint hown.typeCode, ⟨⟨hargs, hchildren⟩, ?_⟩, hint hown.marketNumber,
      nofun, JsonTree.intsFit_finite_iff.2 hown.symbol, List.forall_mem_nil _⟩
    exact fun f hf => JsonTree.intsFit_finite_iff.2 (hown.rule f hf)

theorem coded_of_compile {catalog : Catalog} {n : SignalNode} {s : CompiledSignal}
    (h : n.compile catalog = .ok s) : s.Everywhere Coded := by
  intro p t ht
  obtain ⟨m, -, hm⟩ := exists_of_rel_right (SignalNode.compile_rel h p) ht
  obtain ⟨id, args, children, rule⟩ := m
  obtain ⟨c, own, below, -, ho, -, rfl⟩ := SignalNode.compile_eq_ok_iff.1 hm
  obtain ⟨records, hr, rfl⟩ := map_eq_ok_iff.1 ho
  have hone : (intText 1).length ≤ maxDigits := by decide
  have hzero : (intText 0).length ≤ maxDigits := by decide
  refine ⟨signalTypeCode_short c.signalType, ?_, ?_, hone, ?_⟩
  · intro a ha
    have hmem : a ∈ records := by
      dsimp only at ha
      split at ha
      · cases ha
      · exact ha
    obtain ⟨spec, -, x, hx⟩ := exists_compiled_of_mem hr hmem
    exact ArgSpec.intsFit_of_compiled hx
  · dsimp only
    split
    · exact rule.intsFit_compiled
    · exact List.forall_mem_nil _
  · rw [SymbolRef.toJson, JsonTree.intsFit_object_iff]
    simp [JsonTree.IntsFit, JsonTree.ints, Json.ofText?, Json.ofOption, hzero]

end CompiledSignal

end TradingSignals
