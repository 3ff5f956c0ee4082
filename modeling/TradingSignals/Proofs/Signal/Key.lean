import Mathlib.Data.List.Perm.Basic
import Mathlib.Data.String.Basic
import TradingSignals.Proofs.Signal.Agreement
import TradingSignals.Proofs.Strategy.Shown

namespace TradingSignals

/-- Texts that do not hold the mark between them can be told from what they are joined to. -/
theorem eq_of_joined {first : String} {texts more : List String}
    (ht : ∀ t ∈ texts, '_' ∉ t.toList) (hm : ∀ t ∈ more, '_' ∉ t.toList)
    (he : texts = [] ↔ more = [])
    (h : String.intercalate "_" (first :: texts) = String.intercalate "_" (first :: more)) :
    texts = more := by
  have hsplit : ∀ ts : List String, ts ≠ [] → (∀ t ∈ ts, '_' ∉ t.toList) →
      (String.intercalate "_" ts).toList.splitOn '_' = ts.map String.toList := by
    intro ts hne hts
    rw [String.toList_intercalate]
    apply List.splitOn_intercalate
    · exact List.forall_mem_map.2 hts
    · exact mt List.map_eq_nil_iff.1 hne
  by_cases hn : texts = []
  · rw [hn, he.1 hn]
  · have hn' : more ≠ [] := mt he.2 hn
    rw [String.intercalate_cons_of_ne_nil hn, String.intercalate_cons_of_ne_nil hn'] at h
    have hj : String.intercalate "_" texts = String.intercalate "_" more :=
      (String.append_right_inj _).1 h
    have hl := congrArg (fun s : String => s.toList.splitOn '_') hj
    rw [hsplit texts hn ht, hsplit more hn' hm] at hl
    exact List.map_injective_iff.2 (fun s t => String.toList_inj.1) hl

theorem filterMap_eq_iff {α β : Type} {f g : α → Option β} {l : List α}
    (h : ∀ a ∈ l, (f a).isSome = (g a).isSome) :
    l.filterMap f = l.filterMap g ↔ ∀ a ∈ l, f a = g a := by
  induction l with
  | nil => simp
  | cons a l ih =>
    rw [List.forall_mem_cons] at h
    rw [List.forall_mem_cons, ← ih h.2]
    have ha := h.1
    cases hf : f a with
    | none =>
      cases hg : g a with
      | none => rw [List.filterMap_cons_none hf, List.filterMap_cons_none hg, eq_self, true_and]
      | some y =>
        rw [hf, hg] at ha
        cases ha
    | some x =>
      cases hg : g a with
      | none =>
        rw [hf, hg] at ha
        cases ha
      | some y =>
        rw [List.filterMap_cons_some hf, List.filterMap_cons_some hg, List.cons.injEq,
          Option.some.injEq]

/-- Whether an argument has a name that shows in a key. -/
def showsInKey (a : String × Scalar) : Bool := a.1 ∈ keyArgs

def byName (a b : String × Scalar) : Bool := a.1 ≤ b.1

/-- The arguments that show in a key, in the order of their names. -/
def sortedKeyArgs (args : List (String × Scalar)) : List (String × Scalar) :=
  (args.mergeSort byName).filter showsInKey

section

variable {args args' : List (String × Scalar)}

theorem sortedKeyArgs_perm : (sortedKeyArgs args).Perm (args.filter showsInKey) :=
  (List.mergeSort_perm args byName).filter _

theorem sortedKeyArgs_ascend (h : (args.map Prod.fst).Nodup) :
    (sortedKeyArgs args).Pairwise (·.1 < ·.1) := by
  have htrans : ∀ a b c : String × Scalar, byName a b → byName b c → byName a c := by
    simp only [byName, decide_eq_true_eq]
    exact fun a b c => le_trans
  have htotal : ∀ a b : String × Scalar, byName a b || byName b a := by
    simp only [byName, Bool.or_eq_true, decide_eq_true_eq]
    exact fun a b => le_total a.1 b.1
  have hle := List.pairwise_mergeSort htrans htotal args
  have hne : (args.mergeSort byName).Pairwise (·.1 ≠ ·.1) :=
    List.pairwise_map.1 (((List.mergeSort_perm args byName).map Prod.fst).nodup_iff.2 h)
  apply List.Pairwise.filter
  refine (List.pairwise_and_iff.2 ⟨hle, hne⟩).imp ?_
  rintro a b ⟨hab, hne⟩
  exact lt_of_le_of_ne (of_decide_eq_true hab) hne

theorem eq_of_ascending {l l' : List (String × Scalar)} (h : l.Perm l')
    (hl : l.Pairwise (·.1 < ·.1)) (hl' : l'.Pairwise (·.1 < ·.1)) : l = l' :=
  List.Perm.eq_of_pairwise (fun _ _ _ _ hab hba => absurd hba hab.asymm) hl hl' h

theorem mem_sortedKeyArgs {a : String × Scalar} :
    a ∈ sortedKeyArgs args ↔ a ∈ args ∧ a.1 ∈ keyArgs := by
  rw [sortedKeyArgs_perm.mem_iff, List.mem_filter, showsInKey, decide_eq_true_eq]

/-- Sorting puts the two names in the order in which they are looked up. -/
theorem sortedKeyArgs_eq (h : (args.map Prod.fst).Nodup) :
    sortedKeyArgs args = keyArgs.filterMap fun k => (args.lookup k).map (k, ·) := by
  have hsorted := sortedKeyArgs_ascend h
  have hlooked : (keyArgs.filterMap fun k => (args.lookup k).map (k, ·)).Pairwise
      (·.1 < ·.1) := by
    have hk : keyArgs.Pairwise (· < ·) := by decide
    apply hk.filterMap
    intro k k' hlt a ha b hb
    obtain ⟨v, -, rfl⟩ := Option.map_eq_some_iff.1 ha
    obtain ⟨w, -, rfl⟩ := Option.map_eq_some_iff.1 hb
    exact hlt
  have hnodup : ∀ {l : List (String × Scalar)}, l.Pairwise (·.1 < ·.1) → l.Nodup := by
    intro l hl
    apply hl.imp
    rintro a _ hlt rfl
    exact lt_irrefl _ hlt
  refine eq_of_ascending ?_ hsorted hlooked
  apply (List.perm_ext_iff_of_nodup (hnodup hsorted) (hnodup hlooked)).2
  rintro ⟨k, v⟩
  rw [mem_sortedKeyArgs, List.mem_filterMap]
  constructor
  · rintro ⟨hm, hk⟩
    exact ⟨k, hk, by rw [lookup_of_mem h hm]; rfl⟩
  · rintro ⟨key, hk, he⟩
    obtain ⟨w, hw, he⟩ := Option.map_eq_some_iff.1 he
    cases he
    exact ⟨mem_of_lookup hw, hk⟩

end

namespace Capability

variable {c : Capability} {args args' : List (String × Scalar)}

/-- A key is the name of the capability and the arguments that show in it, sorted by their
names. -/
theorem signalKey_eq_sorted (h : (args.map Prod.fst).Nodup) : c.signalKey args =
    String.intercalate "_" (c.name :: (sortedKeyArgs args).map fun a => a.2.shown) := by
  rw [signalKey, sortedKeyArgs_eq h, List.map_filterMap]
  simp only [Option.map_map]
  rfl

/-- Two keys are the same exactly when they show the same texts, where none holds the mark between
them. -/
theorem signalKey_eq_iff
    (h : ∀ k ∈ keyArgs, Option.Rel (fun x y : Scalar => '_' ∉ x.shown.toList ∧
      '_' ∉ y.shown.toList) (args.lookup k) (args'.lookup k)) :
    c.signalKey args = c.signalKey args' ↔
      ∀ k ∈ keyArgs, (args.lookup k).map Scalar.shown = (args'.lookup k).map Scalar.shown := by
  have hgiven : ∀ k ∈ keyArgs, ((args.lookup k).map Scalar.shown).isSome =
      ((args'.lookup k).map Scalar.shown).isSome := by
    intro k hk
    have hl := h k hk
    generalize args.lookup k = o, args'.lookup k = o' at hl
    cases hl <;> rfl
  have hempty : (keyArgs.filterMap fun k => (args.lookup k).map Scalar.shown) = [] ↔
      (keyArgs.filterMap fun k => (args'.lookup k).map Scalar.shown) = [] := by
    rw [List.filterMap_eq_nil_iff, List.filterMap_eq_nil_iff]
    apply forall₂_congr
    intro k hk
    rw [← Option.not_isSome_iff_eq_none, ← Option.not_isSome_iff_eq_none, hgiven k hk]
  rw [← filterMap_eq_iff hgiven]
  constructor
  · apply eq_of_joined _ _ hempty
    · intro t ht
      obtain ⟨k, hk, ht⟩ := List.mem_filterMap.1 ht
      obtain ⟨x, hx, rfl⟩ := Option.map_eq_some_iff.1 ht
      obtain ⟨y, -, hxy⟩ := exists_of_rel (h k hk) hx
      exact hxy.1
    · intro t ht
      obtain ⟨k, hk, ht⟩ := List.mem_filterMap.1 ht
      obtain ⟨y, hy, rfl⟩ := Option.map_eq_some_iff.1 ht
      obtain ⟨x, -, hxy⟩ := exists_of_rel_right (h k hk) hy
      exact hxy.2
  · intro he
    rw [signalKey, signalKey, he]

/-- Signals with finite numbers for the arguments that show have the same key exactly when these
are equal, and no other argument has a part in it. -/
theorem signalKey_separates (c : Capability) (n m : SignalNode) :
    ((∀ k ∈ ["Depth", "Length"], Option.Rel (fun x y => x.isFiniteNumber ∧ y.isFiniteNumber)
        (n.args.lookup k) (m.args.lookup k)) →
      (c.signalKey n.args = c.signalKey m.args ↔ ∀ k ∈ ["Depth", "Length"],
        Option.Rel (fun x y => x.same y) (n.args.lookup k) (m.args.lookup k))) ∧
    ((n.args.map Prod.fst).Nodup → (m.args.map Prod.fst).Nodup →
      (n.args.filter fun a => a.1 ∈ ["Depth", "Length"]).Perm
        (m.args.filter fun a => a.1 ∈ ["Depth", "Length"]) →
      c.signalKey n.args = c.signalKey m.args) := by
  constructor
  · intro h
    have hmark : ∀ {x : Scalar}, x.isFiniteNumber → '_' ∉ x.shown.toList := by
      intro x hx hc
      exact absurd (Scalar.inNumber_of_mem_shown hx hc) (by decide)
    rw [signalKey_eq_iff fun k hk => rel_imp (h k hk) fun x y _ hxy => ⟨hmark hxy.1, hmark hxy.2⟩]
    apply forall₂_congr
    intro k hk
    have hl := h k hk
    generalize n.args.lookup k = o, m.args.lookup k = o' at hl
    cases hl with
    | none => simp
    | some hxy => simp [Scalar.shown_eq_iff hxy.1 hxy.2]
  · intro hn hm hp
    have hsorted : sortedKeyArgs n.args = sortedKeyArgs m.args := by
      refine eq_of_ascending ?_ (sortedKeyArgs_ascend hn) (sortedKeyArgs_ascend hm)
      exact sortedKeyArgs_perm.trans (hp.trans sortedKeyArgs_perm.symm)
    rw [signalKey_eq_sorted hn, signalKey_eq_sorted hm, hsorted]

/-- A whole number has the same key with a fraction or without one, but a double next to it has
another; an argument is not taken for one whose name differs in case. -/
theorem long_length_separated :
    let c : Capability := { id := "band", name := "Band", signalType := "SignalValueBand" }
    let plain : SignalNode :=
      { catalogId := "band"
        args := [("Length", .int (Nat.pow 10 20)), ("Depth", .float (.ofDecimal false 25 (-1)))] }
    let whole : SignalNode :=
      { catalogId := "band"
        args := [("DEPTH", .text "_3"), ("Depth", .float (.ofDecimal false 25 (-1))),
          ("length", .int 7), ("Length", .float (.ofInt (Nat.pow 10 20)))] }
    let next : SignalNode :=
      { catalogId := "band"
        args :=
          [("Length", .int (Nat.pow 10 20 + 1)), ("Depth", .float (.ofDecimal false 25 (-1)))] }
    let longer : SignalNode :=
      { catalogId := "band"
        args := [("Depth", .float (.ofDecimal false 25 (-1))), ("Offset", .float .nan),
          ("Length", .int (Nat.pow 10 20))] }
    c.signalKey plain.args = "Band_2.5_100000000000000000000" ∧
      c.signalKey plain.args = c.signalKey whole.args ∧
      c.signalKey next.args ≠ c.signalKey whole.args ∧
      c.signalKey plain.args = c.signalKey longer.args := by
  intro c plain whole next longer
  refine ⟨by decide +kernel, ?_, ?_, ?_⟩
  · apply ((c.signalKey_separates plain whole).1 _).2
    · decide +kernel
    · decide +kernel
  · apply mt ((c.signalKey_separates next whole).1 _).1
    · decide +kernel
    · decide +kernel
  · apply (c.signalKey_separates plain longer).2
    · decide +kernel
    · decide +kernel
    · decide +kernel

end Capability

end TradingSignals
