import TradingSignals.Proofs.Signal.Wire
import TradingSignals.Proofs.Strategy.RoundTrip

namespace TradingSignals

namespace Json

theorem depth_ofOption {α : Type} {f : α → Json} (h : ∀ a, (f a).depth = 0) {o : Option α} :
    (ofOption f o).depth = 0 := by
  cases o with
  | none => rfl
  | some a => exact h a

@[simp] theorem depth_ofText? {o : Option String} : (ofText? o).depth = 0 :=
  depth_ofOption fun _ => rfl

@[simp] theorem depth_ofInt? {o : Option Int} : (ofInt? o).depth = 0 :=
  depth_ofOption fun _ => rfl

@[simp] theorem depth_ofBool? {o : Option Bool} : (ofBool? o).depth = 0 :=
  depth_ofOption fun _ => rfl

end Json

theorem CompiledArg.depth_toJson_le {a : CompiledArg} {spelling : Spelling} :
    (a.toJson spelling).depth ≤ 1 := by
  rw [toJson, JsonTree.depth_object_le_iff]
  simp [JsonTree.depth]

theorem SymbolRef.depth_toJson_le {s : SymbolRef} {spelling : Spelling} :
    (s.toJson spelling).depth ≤ 1 := by
  rw [toJson, JsonTree.depth_object_le_iff]
  simp [JsonTree.depth]

theorem CompiledRule.depth_toFields {r : CompiledRule} {spelling : Spelling} :
    ∀ f ∈ r.toFields spelling, f.2.depth = 0 := by
  rw [toFields]
  split
  · exact nofun
  · simp

namespace CompiledSignal

variable {s t : CompiledSignal}

theorem depth_toWire_le_iff {k : Nat} : s.toWire.depth ≤ k + 1 ↔
    (∀ args, s.args = some args →
      (JsonTree.array (args.map fun a => (a.toJson .wire).finite)).depth ≤ k) ∧
    (∀ signals, s.children = some signals → (JsonTree.array (signals.map toWire)).depth ≤ k) ∧
    (s.symbol.toJson .wire).finite.depth ≤ k := by
  have hrule : ∀ f ∈ s.rule.toFields .wire, f.2.finite.depth ≤ k := by
    intro f hf
    rw [JsonTree.depth_finite_le_iff, CompiledRule.depth_toFields f hf]
    exact Nat.zero_le k
  rw [toWire_eq, JsonTree.depth_object_le_iff, wireFields]
  simp only [List.forall_mem_cons, List.forall_mem_append, List.forall_mem_map, Option.mem_toList]
  simp only [JsonTree.depth, Nat.zero_le, true_and, List.not_mem_nil, false_implies, implies_true,
    and_true]
  tauto

/-- A signal takes two levels more than its children; alone it may take three, for its records. -/
theorem depth_toWire_le {k : Nat} (h : ∀ t ∈ s.children.getD [], t.toWire.depth ≤ k + 1) :
    s.toWire.depth ≤ k + 3 := by
  rw [depth_toWire_le_iff]
  refine ⟨?_, ?_, ?_⟩
  · intro args hs
    rw [JsonTree.depth_array_le_iff, List.forall_mem_map]
    intro a ha
    have hle : (a.toJson .wire).finite.depth ≤ 1 :=
      JsonTree.depth_finite_le_iff.2 a.depth_toJson_le
    omega
  · intro signals hs
    rw [hs] at h
    rw [JsonTree.depth_array_le_iff, List.forall_mem_map]
    exact h
  · have hle : (s.symbol.toJson .wire).finite.depth ≤ 1 :=
      JsonTree.depth_finite_le_iff.2 s.symbol.depth_toJson_le
    omega

/-- The instrument alone takes a second level. -/
theorem two_le_depth_toWire : 2 ≤ s.toWire.depth := by
  by_contra hlt
  obtain ⟨-, -, hsymbol⟩ := (depth_toWire_le_iff (s := s) (k := 0)).1 (by omega)
  rw [SymbolRef.toJson, JsonTree.finite_object, JsonTree.depth] at hsymbol
  omega

theorem depth_toWire_child_le (h : t ∈ s.children.getD []) :
    t.toWire.depth + 2 ≤ s.toWire.depth := by
  obtain ⟨k, hk⟩ : ∃ k, s.toWire.depth = k + 2 := Nat.exists_eq_add_of_le' two_le_depth_toWire
  obtain ⟨-, hchildren, -⟩ := depth_toWire_le_iff.1 (Nat.le_of_eq hk)
  cases hs : s.children with
  | none =>
    rw [hs] at h
    cases h
  | some signals =>
    rw [hs] at h
    have hlist := hchildren signals hs
    rw [JsonTree.depth_array_le_iff, List.forall_mem_map] at hlist
    have hle := hlist t h
    omega

end CompiledSignal

namespace Decode

variable {v : Json} {s t : CompiledSignal} {room : Nat}

theorem exists_object_of_compiledSignal (h : compiledSignal v = .ok s) :
    ∃ fields, v = .object fields := by
  cases v with
  | object fields => exact ⟨fields, rfl⟩
  | _ =>
    rw [compiledSignal] at h
    · cases h
    · simp

/-- Every child is decoded from an item. -/
theorem exists_item_of_compiledList {o : Option (List CompiledSignal)}
    (h : compiledList v = .ok o) (ht : t ∈ o.getD []) :
    ∃ items, v = .array items ∧ ∃ w ∈ items, compiledSignal w = .ok t := by
  cases v with
  | null =>
    cases h
    cases ht
  | array items =>
    obtain ⟨signals, rfl, hs⟩ := compiledList_array_eq_ok_iff.1 h
    obtain ⟨w, hw, hc⟩ := exists_mem_of_forall₂ hs ht
    exact ⟨items, rfl, w, hw, hc⟩
  | _ =>
    rw [compiledList] at h
    · cases h
    all_goals simp

theorem depth_of_compiledSignal (hfit : v.FitsIn room) (h : compiledSignal v = .ok s) :
    s.toWire.depth ≤ room + 2 := by
  induction s using CompiledSignal.induct generalizing v room with
  | node s ih =>
    obtain ⟨fields, rfl⟩ := exists_object_of_compiledSignal h
    obtain ⟨room, rfl⟩ := hfit.pos_of_object
    rw [JsonTree.fitsIn_object_iff] at hfit
    obtain ⟨-, -, -, -, hchildren, -⟩ := compiledSignal_object_eq_ok_iff.1 h
    apply CompiledSignal.depth_toWire_le
    intro t ht
    rcases FieldName.eq_or_exists_of_withDefault hchildren with hn | ⟨f, hf, hc⟩
    · rw [hn] at ht
      cases ht
    · obtain ⟨items, hi, w, hw, hs⟩ := exists_item_of_compiledList hc ht
      have hlist := hfit f hf
      rw [hi] at hlist
      obtain ⟨room, rfl⟩ := hlist.pos_of_array
      exact ih t ht (JsonTree.fitsIn_array_iff.1 hlist w hw) hs

end Decode

theorem SignalNode.depth_of_compile {catalog : Catalog} {n : SignalNode} {s : CompiledSignal}
    (h : n.compile catalog = .ok s) : s.toWire.depth ≤ 2 * n.height + 1 := by
  induction n using SignalNode.induct generalizing s with
  | node id args children rule ih =>
    have hs := compileSignals_eq_ok_iff.1 (compileSignals_of_compile h)
    have hchildren : ∀ t ∈ s.children.getD [],
        t.toWire.depth ≤ 2 * forestHeight children + 1 := by
      intro t ht
      obtain ⟨n, hn, hc⟩ := exists_mem_of_forall₂ hs ht
      have hle := height_le_forestHeight hn
      have hdepth := ih n hn hc
      omega
    have hdepth := CompiledSignal.depth_toWire_le hchildren
    rw [height]
    omega

namespace CompiledSignal

theorem fits_iff {s : CompiledSignal} : s.fits ↔ s.toWire.depth ≤ 254 := by
  rw [fits, decide_eq_true_iff, maxLevels]

/-- A signal that was read has at most 203 levels. -/
theorem fits_of_read {text : String} {s : CompiledSignal} (h : read text = .ok s) : s.fits := by
  obtain ⟨v, hv, hs⟩ := decodeText_eq_ok_iff.1 h
  have hdepth := Decode.depth_of_compiledSignal (fitsIn_of_readJson hv) hs
  rw [fits_iff]
  omega

/-- What is compiled from a document text has at most 200 levels. -/
theorem depth_toWire_le_of_read {text : String} {d : StrategyDocument} {list : SignalList}
    {n : SignalNode} {catalog : Catalog} {s : CompiledSignal}
    (hd : StrategyDocument.read text = .ok d) (hn : n ∈ d.signals list)
    (h : n.compile catalog = .ok s) : s.toWire.depth ≤ 200 := by
  have hheight : 2 * n.height ≤ 199 := by
    unfold StrategyDocument.signals at hn
    cases hs : d.strategy with
    | none =>
      rw [hs] at hn
      cases hn
    | some t =>
      rw [hs] at hn
      have hle : n.height ≤ forestHeight (t.signals list) := height_le_forestHeight hn
      have hroom := (StrategyDocument.writtenIn_of_read hd t hs).forest list
      omega
  have hdepth := SignalNode.depth_of_compile h
  omega

end CompiledSignal

end TradingSignals
