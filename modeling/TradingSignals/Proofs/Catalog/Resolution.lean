import Mathlib.Data.List.Induction
import TradingSignals.Proofs.Catalog.Bounds
import TradingSignals.Proofs.Json.Settled

namespace TradingSignals

/-- The form of its id that a capability is found by. -/
def Capability.lowerId (c : Capability) : String := lowercase c.id

/-- A text is one of the aliases, in any case. -/
def Capability.HasAlias (c : Capability) (s : String) : Prop :=
  ∃ a ∈ c.aliases, lowercase a = lowercase s

instance (c : Capability) (s : String) : Decidable (c.HasAlias s) :=
  inferInstanceAs (Decidable (∃ a ∈ c.aliases, lowercase a = lowercase s))

namespace Catalog

/-- The last capability that is registered with an id, which is given in small letters. -/
def lastDefinition? (cs : List Capability) (key : String) : Option Capability :=
  cs.findRev? (·.lowerId == key)

/-- The aliases in the order they are registered in, each with the capability that declares it. -/
def declarations (cs : List Capability) : List (String × Capability) :=
  cs.flatMap fun c => c.aliases.map fun a => (lowercase a, c)

section

variable {cs : List Capability} {c : Capability} {key : String}

theorem mem_declarations : (key, c) ∈ declarations cs ↔
    c ∈ cs ∧ ∃ a ∈ c.aliases, lowercase a = key := by
  simp only [declarations, List.mem_flatMap, List.mem_map, Prod.mk.injEq]
  constructor
  · intro h
    obtain ⟨d, hd, a, ha, he, rfl⟩ := h
    exact ⟨hd, a, ha, he⟩
  · intro h
    obtain ⟨hc, a, ha, he⟩ := h
    exact ⟨c, hc, a, ha, he, rfl⟩

/-- Another registration becomes the last one of its id. -/
theorem lastDefinition?_concat : lastDefinition? (cs ++ [c]) key =
    if c.lowerId = key then some c else lastDefinition? cs key := by
  rw [lastDefinition?, List.findRev?_eq_find?_reverse, List.reverse_concat, List.find?_cons,
    lastDefinition?, List.findRev?_eq_find?_reverse]
  by_cases h : c.lowerId = key
  · simp [h]
  · rw [if_neg h, beq_false_of_ne h]

/-- Behind its last definition an id does not occur again. -/
theorem lastDefinition?_eq_some_iff : lastDefinition? cs key = some c ↔
    c.lowerId = key ∧ ∃ before after, cs = before ++ c :: after ∧
      ∀ d ∈ after, d.lowerId ≠ key := by
  rw [lastDefinition?, List.findRev?_eq_find?_reverse, List.find?_eq_some_iff_append, beq_iff_eq]
  apply and_congr_right
  intro _
  constructor
  · intro h
    obtain ⟨after, before, he, ha⟩ := h
    refine ⟨before.reverse, after.reverse, ?_, ?_⟩
    · rw [← List.reverse_inj, he]
      simp
    · intro d hd
      simpa using ha d (List.mem_reverse.1 hd)
  · intro h
    obtain ⟨before, after, he, ha⟩ := h
    refine ⟨after.reverse, before.reverse, ?_, ?_⟩
    · rw [he]
      simp
    · intro d hd
      simpa using ha d (List.mem_reverse.1 hd)

theorem lastDefinition?_isSome_iff : (lastDefinition? cs key).isSome ↔
    ∃ c ∈ cs, c.lowerId = key := by
  simp [lastDefinition?, List.findRev?_eq_find?_reverse]

theorem ofList_concat : ofList (cs ++ [c]) = (ofList cs).register c := by
  rw [ofList, List.foldl_append]
  rfl

/-- A new id goes to the end, and a known one keeps its place. -/
theorem ids_register {catalog : Catalog} : (catalog.register c).byId.map Prod.fst =
    if c.lowerId ∈ catalog.byId.map Prod.fst then catalog.byId.map Prod.fst
    else catalog.byId.map Prod.fst ++ [c.lowerId] := map_fst_putField

/-- The ids stand in the order they are first registered in. -/
theorem ids_ofList : (ofList cs).byId.map Prod.fst = (cs.map Capability.lowerId).eraseDups := by
  induction cs using List.reverseRecOn with
  | nil => rfl
  | append_singleton cs c ih =>
    rw [ofList_concat, ids_register, ih, List.map_append, List.eraseDups_append]
    have hr : ([c].map Capability.lowerId).removeAll (cs.map Capability.lowerId) =
        if c.lowerId ∈ cs.map Capability.lowerId then [] else [c.lowerId] := by
      rw [List.removeAll, List.map_singleton, List.filter_singleton]
      simp
    rw [hr]
    by_cases h : c.lowerId ∈ cs.map Capability.lowerId
    · rw [if_pos (List.mem_eraseDups.2 h), if_pos h]
      exact (List.append_nil _).symm
    · rw [if_neg (mt List.mem_eraseDups.1 h), if_neg h]
      rfl

theorem ids_nodup : ((ofList cs).byId.map Prod.fst).Nodup := by
  induction cs using List.reverseRecOn with
  | nil => exact List.nodup_nil
  | append_singleton cs c ih =>
    rw [ofList_concat]
    exact nodup_putField ih

/-- Every capability stands under its own id. -/
theorem lowerId_of_mem {e : String × Capability} (h : e ∈ (ofList cs).byId) :
    e.2.lowerId = e.1 := by
  induction cs using List.reverseRecOn with
  | nil => cases h
  | append_singleton cs c ih =>
    rw [ofList_concat] at h
    rcases mem_of_mem_putField h with h | rfl
    · exact ih h
    · rfl

/-- Under each id stands its last definition. -/
theorem byId_lookup : (ofList cs).byId.lookup key = lastDefinition? cs key := by
  induction cs using List.reverseRecOn with
  | nil => rfl
  | append_singleton cs c ih =>
    rw [lookup_eq_lastField? ids_nodup, ofList_concat, lastDefinition?_concat, ← ih,
      lookup_eq_lastField? ids_nodup]
    exact lastField?_putField

/-- The aliases stand in the order they are registered in, each with an id. -/
theorem aliases_ofList : (ofList cs).byAlias = (declarations cs).map (Prod.map id (·.id)) := by
  induction cs using List.reverseRecOn with
  | nil => rfl
  | append_singleton cs c ih =>
    rw [ofList_concat, register, ih]
    simp [declarations]

theorem byAlias_lookup :
    (ofList cs).byAlias.lookup key = ((declarations cs).lookup key).map (·.id) := by
  rw [aliases_ofList]
  induction declarations cs with
  | nil => rfl
  | cons d ds ih =>
    rw [List.map_cons, List.lookup_cons, List.lookup_cons, ih]
    cases h : key == d.1
    · simp [h]
    · simp [h]

/-- An id comes first, and an alias stands for the last definition of the id it was declared
with. -/
theorem lookup_ofList {s : String} : (ofList cs).lookup s =
    (lastDefinition? cs (lowercase s)).or (((declarations cs).lookup (lowercase s)).bind
      fun c => lastDefinition? cs c.lowerId) := by
  rw [lookup, byId_lookup, byAlias_lookup]
  cases lastDefinition? cs (lowercase s) with
  | some c => rfl
  | none =>
    cases (declarations cs).lookup (lowercase s) with
    | none => rfl
    | some c => exact byId_lookup

/-- A text stands for something when it is a registered id or a declared alias. -/
theorem lookup_isSome_iff {s : String} : ((ofList cs).lookup s).isSome ↔
    ∃ c ∈ cs, c.lowerId = lowercase s ∨ c.HasAlias s := by
  have halias : ((declarations cs).lookup (lowercase s)).isSome ↔ ∃ c ∈ cs, c.HasAlias s := by
    rw [List.lookup_isSome_iff]
    constructor
    · intro h
      obtain ⟨⟨key, c⟩, hm, he⟩ := h
      obtain rfl := beq_iff_eq.1 he
      obtain ⟨hc, ha⟩ := mem_declarations.1 hm
      exact ⟨c, hc, ha⟩
    · intro h
      obtain ⟨c, hc, ha⟩ := h
      exact ⟨_, mem_declarations.2 ⟨hc, ha⟩, BEq.rfl⟩
  -- an alias never leads nowhere, as the capability that declares it is registered itself
  have hbehind : ((((declarations cs).lookup (lowercase s)).bind
      fun c => lastDefinition? cs c.lowerId)).isSome =
        ((declarations cs).lookup (lowercase s)).isSome := by
    cases hd : (declarations cs).lookup (lowercase s) with
    | none => rfl
    | some c =>
      have hc : c ∈ cs := (mem_declarations.1 (mem_of_lookup hd)).1
      rw [Option.bind_some, lastDefinition?_isSome_iff.2 ⟨c, hc, rfl⟩, Option.isSome_some]
  rw [lookup_ofList, Option.isSome_or, Bool.or_eq_true, hbehind, lastDefinition?_isSome_iff,
    halias, ← exists_or]
  apply exists_congr
  intro c
  exact and_or_left.symm

theorem toList_ofList : (ofList cs).toList =
    (cs.map Capability.lowerId).eraseDups.filterMap (lastDefinition? cs) := by
  rw [← ids_ofList, List.filterMap_map, toList, ← List.filterMap_eq_map]
  apply List.filterMap_congr
  intro e he
  rw [Function.comp_apply, Function.comp_apply, ← byId_lookup, lookup_of_mem ids_nodup he]

theorem ids_toList : (ofList cs).toList.map Capability.lowerId =
    (ofList cs).byId.map Prod.fst := by
  rw [toList, List.map_map]
  apply List.map_congr_left
  intro e he
  exact lowerId_of_mem he

/-- A text stands for the last definition of an id, in any case, or else for the last definition
of the id with which an alias was declared first; this fails only for a text that is neither. The
capabilities are listed in the order their ids are registered in first, each by its last
definition. -/
theorem resolution_exact (cs : List Capability) :
    (∀ s, (ofList cs).lookup s =
      (lastDefinition? cs (lowercase s)).or (((declarations cs).lookup (lowercase s)).bind
        fun c => lastDefinition? cs c.lowerId)) ∧
    (∀ s, ((ofList cs).lookup s).isSome ↔ ∃ c ∈ cs, c.lowerId = lowercase s ∨ c.HasAlias s) ∧
    (ofList cs).toList = (cs.map Capability.lowerId).eraseDups.filterMap (lastDefinition? cs) ∧
    (ofList cs).toList.map Capability.lowerId = (cs.map Capability.lowerId).eraseDups ∧
    ((ofList cs).toList.map Capability.lowerId).Nodup ∧
    (ofList cs).size = (ofList cs).toList.length := by
  have hids : (ofList cs).toList.map Capability.lowerId =
      (cs.map Capability.lowerId).eraseDups := ids_toList.trans ids_ofList
  have hdistinct : ((ofList cs).toList.map Capability.lowerId).Nodup := by
    rw [ids_toList]
    exact ids_nodup
  have hsize : (ofList cs).size = (ofList cs).toList.length := (List.length_map _).symm
  exact ⟨fun s => lookup_ofList, fun s => lookup_isSome_iff, toList_ofList, hids, hdistinct, hsize⟩

/-- The first `b` is replaced in its place; `x` leads to it by the alias that was declared first,
and the id `y` hides an alias. -/
example :
    let first : Capability := { id := "b", name := "First", signalType := "", aliases := ["X"] }
    let other : Capability := { id := "Y", name := "Other", signalType := "", aliases := ["x"] }
    let last : Capability := { id := "B", name := "Last", signalType := "", aliases := ["y"] }
    let catalog := ofList [first, other, last]
    catalog.toList = [last, other] ∧ catalog.lookup "x" = some last ∧
      catalog.lookup "y" = some other ∧ catalog.lookup "z" = none := by
  decide +kernel

/-- What stands for a text that is no id has replaced the first capability that declares it as an
alias, or is that capability itself. -/
theorem declarer_of_lookup {s : String} (hs : ∀ d ∈ cs, d.lowerId ≠ lowercase s)
    (hl : (ofList cs).lookup s = some c) :
    ∃ d, d.HasAlias s ∧ d.lowerId = c.lowerId ∧ (d = c ∨ [d, c].Sublist cs) := by
  have hno : lastDefinition? cs (lowercase s) = none := by
    rw [← Option.not_isSome_iff_eq_none, lastDefinition?_isSome_iff]
    simpa using hs
  rw [lookup_ofList, hno, Option.none_or] at hl
  obtain ⟨d, hd, hl⟩ := Option.bind_eq_some_iff.1 hl
  obtain ⟨hm, ha⟩ := mem_declarations.1 (mem_of_lookup hd)
  obtain ⟨hid, before, after, rfl, hafter⟩ := lastDefinition?_eq_some_iff.1 hl
  refine ⟨d, ha, hid.symm, ?_⟩
  rcases List.mem_append.1 hm with hm | hm
  · have hpair : ([d] ++ [c]).Sublist (before ++ ([c] ++ after)) :=
      (List.singleton_sublist.2 hm).append (List.sublist_append_left [c] after)
    exact Or.inr hpair
  · rcases List.mem_cons.1 hm with rfl | hm
    · exact Or.inl rfl
    · exact absurd rfl (hafter d hm)

theorem occursIn_self (cs : List Char) : occursIn cs cs := by
  cases cs with
  | nil => rfl
  | cons c cs => simp [occursIn]

theorem mentions_of_hasAlias {s : String} (h : c.HasAlias s) : c.mentions s := by
  obtain ⟨a, ha, he⟩ := h
  unfold Capability.mentions
  rw [List.any_eq_true]
  refine ⟨a, List.mem_cons_of_mem _ ha, ?_⟩
  rw [he]
  exact occursIn_self _

/-- What is found by an alias declares it, and a search for the alias finds it, too. Otherwise it
has replaced a definition of its id that declares the alias, which cannot be where the registered
ids are all different. -/
theorem alias_declared_or_replaced {s : String} (hs : ∀ d ∈ cs, d.lowerId ≠ lowercase s)
    (hl : (ofList cs).lookup s = some c) :
    (c.HasAlias s ∧ c ∈ (ofList cs).search s ∨
      ¬c.HasAlias s ∧ ∃ d, d.HasAlias s ∧ d.lowerId = c.lowerId ∧ [d, c].Sublist cs) ∧
    ((cs.map Capability.lowerId).Nodup → c.HasAlias s) := by
  obtain ⟨d, ha, hid, hd⟩ := declarer_of_lookup hs hl
  have hsearch : c.HasAlias s → c ∈ (ofList cs).search s := fun h =>
    List.mem_filter.2 ⟨mem_toList_of_lookup hl, mentions_of_hasAlias h⟩
  constructor
  · by_cases hc : c.HasAlias s
    · exact Or.inl ⟨hc, hsearch hc⟩
    · rcases hd with rfl | hd
      · exact absurd ha hc
      · exact Or.inr ⟨hc, d, ha, hid, hd⟩
  · intro hn
    rcases hd with rfl | hd
    · exact ha
    · have hpair : [d.lowerId, c.lowerId].Nodup := (hd.map Capability.lowerId).nodup hn
      rw [hid] at hpair
      simp at hpair

end

end Catalog

/-- A capability of which only the names matter. -/
def Capability.named (id name : String) (aliases : List String) : Capability :=
  { id := id, name := name, signalType := "SignalValueTrend", aliases := aliases }

namespace Catalog

/-- The alias is shared by two ids, or kept by the definition that replaces the first one. -/
theorem slope_found_by_alias :
    let trend := Capability.named "trend" "Trend" ["Slope"]
    let drift := Capability.named "Drift" "Drift" ["Slant", "SLOPE"]
    let newer := Capability.named "TREND" "Tendency" ["slope", "Slant"]
    (∀ d ∈ [trend, drift], d.lowerId ≠ lowercase "sLOPE") ∧
      (ofList [trend, drift]).lookup "sLOPE" = some trend ∧ trend.HasAlias "sLOPE" ∧
      (ofList [trend, drift, newer]).lookup "sLOPE" = some newer ∧
      newer ∈ (ofList [trend, drift, newer]).search "sLOPE" := by
  intro trend drift newer
  have hs : ∀ d ∈ [trend, drift, newer], d.lowerId ≠ lowercase "sLOPE" := by decide +kernel
  have hs' : ∀ d ∈ [trend, drift], d.lowerId ≠ lowercase "sLOPE" := by decide +kernel
  have hl : (ofList [trend, drift, newer]).lookup "sLOPE" = some newer := by decide +kernel
  have hl' : (ofList [trend, drift]).lookup "sLOPE" = some trend := by decide +kernel
  have halias : trend.HasAlias "sLOPE" :=
    (alias_declared_or_replaced hs' hl').2 (by decide +kernel)
  rcases (alias_declared_or_replaced hs hl).1 with h | h
  · exact ⟨hs', hl', halias, hl, h.2⟩
  · exact absurd (show newer.HasAlias "sLOPE" by decide +kernel) h.1

/-- An alias still stands for its id when the definition that declares it is replaced by one that
does not, and a search for it finds nothing. -/
theorem dropped_alias_still_found :
    let trend := Capability.named "trend" "Trend" ["drift"]
    let newer := Capability.named "Trend" "Slope" []
    (∀ d ∈ [trend, newer], d.lowerId ≠ lowercase "drift") ∧
      (ofList [trend, newer]).lookup "drift" = some newer ∧ ¬newer.HasAlias "drift" ∧
      (ofList [trend, newer]).search "drift" = [] := by
  decide +kernel

end Catalog

end TradingSignals
