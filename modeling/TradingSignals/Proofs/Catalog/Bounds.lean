import TradingSignals.Catalog.BuiltIn
import TradingSignals.Proofs.Number.Conversion

namespace TradingSignals

def ArgSpec.bounds (spec : ArgSpec) : List Number := spec.min.toList ++ spec.max.toList

/-- The declared bounds lie among the doubles. -/
def ArgSpec.BoundsConvert (spec : ArgSpec) : Prop := ∀ bound ∈ spec.bounds, bound.converts

instance (spec : ArgSpec) : Decidable spec.BoundsConvert :=
  inferInstanceAs (Decidable (∀ bound ∈ spec.bounds, bound.converts))

theorem ArgSpec.BoundsConvert.min {spec : ArgSpec} (h : spec.BoundsConvert) {bound : Number}
    (hb : spec.min = some bound) : bound.converts :=
  h bound (List.mem_append_left _ (by rw [hb]; exact List.mem_singleton_self bound))

theorem ArgSpec.BoundsConvert.max {spec : ArgSpec} (h : spec.BoundsConvert) {bound : Number}
    (hb : spec.max = some bound) : bound.converts :=
  h bound (List.mem_append_right _ (by rw [hb]; exact List.mem_singleton_self bound))

/-- All bounds that are declared in a catalog lie among the doubles. -/
def Catalog.BoundsConvert (catalog : Catalog) : Prop :=
  ∀ c ∈ catalog.toList, ∀ spec ∈ c.requiredArgs, spec.BoundsConvert

instance (catalog : Catalog) : Decidable catalog.BoundsConvert :=
  inferInstanceAs (Decidable (∀ c ∈ catalog.toList, ∀ spec ∈ c.requiredArgs, spec.BoundsConvert))

theorem Catalog.builtIn_boundsConvert : Catalog.builtIn.BoundsConvert := by decide +kernel

theorem mem_of_lookup {α : Type} {l : List (String × α)} {key : String} {a : α}
    (h : l.lookup key = some a) : (key, a) ∈ l := by
  obtain ⟨before, after, rfl, -⟩ := List.lookup_eq_some_iff.1 h
  exact List.mem_append_right _ List.mem_cons_self

/-- What an id stands for was registered. -/
theorem Catalog.mem_toList_of_lookup {catalog : Catalog} {id : String} {c : Capability}
    (h : catalog.lookup id = some c) : c ∈ catalog.toList := by
  have hm : ∀ key, catalog.byId.lookup key = some c → c ∈ catalog.toList := fun key hk =>
    List.mem_map.2 ⟨(key, c), mem_of_lookup hk, rfl⟩
  unfold lookup at h
  split at h
  · next hk => exact hm _ (hk.trans h)
  · obtain ⟨id', -, hk⟩ := Option.bind_eq_some_iff.1 h
    exact hm _ hk

end TradingSignals
