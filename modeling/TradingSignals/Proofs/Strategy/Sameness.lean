import TradingSignals.Proofs.Strategy.Encoding
import TradingSignals.Strategy.Sameness

namespace TradingSignals

theorem Binary64.same_self {x : Binary64} (h : x.isFinite) : x.same x := by
  cases x with
  | finite negative units hu => simp [same, place, Place.same]
  | _ => cases h

theorem Scalar.same_self {x : Scalar} (h : x.isFinite) : x.same x := by
  cases x with
  | int v => simp only [same, number?, Number.place, Place.same, beq_self_eq_true]
  | float x => exact Binary64.same_self h
  | text s => simp [same]
  | flag b => simp [same]

theorem sameArgs_self {entries : List (String × Scalar)} (hk : (entries.map Prod.fst).Nodup)
    (hf : ∀ a ∈ entries, a.2.isFinite) : sameArgs entries entries := by
  rw [sameArgs, beq_self_eq_true, Bool.true_and, List.all_eq_true]
  intro a ha
  rw [lookup_of_mem hk ha]
  exact Scalar.same_self (hf a ha)

theorem sameSignals_self {nodes : List SignalNode} (h : ∀ n ∈ nodes, n.same n) :
    sameSignals nodes nodes := by
  induction nodes with
  | nil => rfl
  | cons n nodes ih =>
    rw [List.forall_mem_cons] at h
    rw [sameSignals, h.1, ih h.2]
    rfl

theorem SignalNode.same_self {n : SignalNode} (hw : n.Everywhere ArgsWritten)
    (hf : n.ArgsFinite) : n.same n := by
  induction n using SignalNode.induct with
  | node id entries children rule ih =>
    obtain ⟨hown, hbelow⟩ := everywhere_mk.1 hw
    obtain ⟨hfinite, hchildren⟩ := everywhere_mk.1 hf
    have hargs : sameArgs entries entries := sameArgs_self hown.keys hfinite
    have hlist : sameSignals children children :=
      sameSignals_self fun n hn => ih n hn (hbelow n hn) (hchildren n hn)
    rw [same, hargs, hlist]
    simp

/-- Settings are read back as the same ones unless the position size is lost. -/
theorem Settings.reread_same_iff {s : Settings} :
    s.reread.same s ↔ ∀ x ∈ s.positionSize, x.isFinite := by
  cases hs : s.positionSize with
  | none => simp [same, reread, hs, sameOption]
  | some x =>
    by_cases hx : x.isFinite
    · simp [same, reread, hs, sameOption, Option.filter_some_pos hx, Binary64.same_self hx, hx]
    · rw [Bool.not_eq_true] at hx
      simp [same, reread, hs, sameOption, Option.filter_some_neg hx, hx]

theorem sameOption_map_iff {α : Type} {same : α → α → Bool} {f : α → α} {o : Option α} :
    sameOption same (o.map f) o ↔ ∀ a ∈ o, same (f a) a := by
  cases o with
  | none => simp [sameOption]
  | some a => simp [sameOption]

theorem Strategy.reread_same_iff {s : Strategy} (h : ∀ list, sameSignals (s.signals list)
    (s.signals list)) :
    s.reread.same s ↔ ∀ u ∈ s.settings, ∀ x ∈ u.positionSize, x.isFinite := by
  have hentry : sameSignals s.entrySignals s.entrySignals := h .entry
  have hexit : sameSignals s.exitSignals s.exitSignals := h .exit
  rw [same, reread]
  simp only [hentry, hexit, Bool.true_and, beq_self_eq_true, Bool.and_true, sameOption_map_iff,
    Settings.reread_same_iff]

/-- The position size in the settings of a document. -/
def StrategyDocument.positionSize? (d : StrategyDocument) : Option Binary64 :=
  d.strategy.bind fun s => s.settings.bind (·.positionSize)

theorem StrategyDocument.reread_same_iff {d : StrategyDocument} (h : ∀ list,
    sameSignals (d.signals list) (d.signals list)) :
    d.reread.same d ↔ ∀ x ∈ d.positionSize?, x.isFinite := by
  rw [same, reread, beq_self_eq_true, Bool.true_and, sameOption_map_iff, positionSize?]
  cases hs : d.strategy with
  | none => simp
  | some s =>
    have hsignals : ∀ list, d.signals list = s.signals list := by
      intro list
      rw [signals, hs]
    simp only [hsignals] at h
    have hsettings := Strategy.reread_same_iff h
    cases hu : s.settings with
    | none => simpa [hu] using hsettings
    | some u => simpa [hu] using hsettings

end TradingSignals
