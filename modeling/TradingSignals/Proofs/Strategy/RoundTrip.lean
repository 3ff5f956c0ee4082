import TradingSignals.Proofs.Json.Reread
import TradingSignals.Proofs.Json.Soundness
import TradingSignals.Proofs.Strategy.Sameness

namespace TradingSignals

section

variable {α : Type} {decode : Json → Decoded α} {s : String} {a : α}

/-- What is given is decoded when it has a text, which is strict JSON. -/
theorem decodeRaw_eq_ok_iff {given : RawText} : decodeRaw decode given = .ok a ↔
    ∃ s v, given.text? = some s ∧ readJson .strict s = .ok v ∧ decode v = .ok a := by
  unfold decodeRaw
  cases given.text? with
  | none => exact iff_of_false nofun nofun
  | some s =>
    rw [Option.map_some]
    cases hv : readJson .strict s with
    | error e => simp [hv]
    | ok v => simp [hv, Decoded.toExcept_eq_ok_iff]

theorem decodeText_of_readJson {v : Json} (h : readJson .strict s = .ok v) :
    decodeText decode s = (decode v).toExcept := by
  rw [decodeText, decodeRaw, RawText.text?, Option.map_some, h]

theorem decodeText_eq_ok_iff :
    decodeText decode s = .ok a ↔ ∃ v, readJson .strict s = .ok v ∧ decode v = .ok a := by
  rw [decodeText, decodeRaw_eq_ok_iff]
  simp [RawText.text?]

end

namespace StrategyDocument

variable {s : String} {d e : StrategyDocument} {indent : Nat}

/-- No argument of a signal, in either list and at any level, is a double that is not finite. -/
def ArgsFinite (d : StrategyDocument) : Prop := ∀ list, ∀ n ∈ d.signals list, n.ArgsFinite

/-- No double that a document holds is infinite or no number. -/
structure AllFinite (d : StrategyDocument) : Prop where
  args : d.ArgsFinite
  positionSize : ∀ x ∈ d.positionSize?, x.isFinite

/-- The document with no position size in its settings, if it has settings. -/
def withoutPositionSize (d : StrategyDocument) : StrategyDocument :=
  { d with strategy := d.strategy.map fun s =>
    { s with settings := s.settings.map fun t => { t with positionSize := none } } }

/-- A document text leaves its strategy 198 levels of the 201 it may have. -/
theorem writtenIn_of_read (h : read s = .ok d) : ∀ t ∈ d.strategy, t.WrittenIn 199 := by
  obtain ⟨v, hv, hd⟩ := decodeText_eq_ok_iff.1 h
  have hfit : v.FitsIn (198 + 3) := fitsIn_of_readJson hv
  exact Decode.written_of_strategyDocument hfit hd

section

variable (hd : ∀ t ∈ d.strategy, t.WrittenIn 199)
include hd

theorem argsWritten (list : SignalList) :
    ∀ n ∈ d.signals list, n.Everywhere SignalNode.ArgsWritten := by
  unfold signals
  cases hs : d.strategy with
  | none => exact nofun
  | some t => exact (hd t hs).args list

theorem height_le : d.height ≤ maxLevels := by
  unfold height
  cases hs : d.strategy with
  | none => exact Nat.zero_le maxLevels
  | some t =>
    have hentry : 2 * forestHeight t.entrySignals ≤ 199 := (hd t hs).forest .entry
    have hexit : 2 * forestHeight t.exitSignals ≤ 199 := (hd t hs).forest .exit
    simp only [maxLevels]
    omega

theorem write?_eq : d.write? indent = .ok (d.write indent) := if_pos (height_le hd)

theorem read_write : read (d.write indent) =
    (Decode.strategyDocument .document d.toJson.finite).toExcept := by
  have hfit : d.toJson.FitsIn (2 * 99 + 3) := fitsIn_document hd
  exact decodeText_of_readJson (readJson_write JsonStyle.readable_document hfit)

theorem read_write_eq_ok_iff :
    read (d.write indent) = .ok e ↔ d.ArgsFinite ∧ e = d.reread := by
  rw [read_write hd, Decoded.toExcept_eq_ok_iff]
  exact Decode.strategyDocument_toJson_eq_ok_iff (argsWritten hd)

/-- What cannot be read back is still JSON, but no document. -/
theorem exists_misfit_of_read_write (hf : ¬d.ArgsFinite) :
    ∃ faults, read (d.write indent) = .error (.misfit faults) := by
  rw [read_write hd]
  cases hv : Decode.strategyDocument .document d.toJson.finite with
  | ok e => exact absurd ((Decode.strategyDocument_toJson_eq_ok_iff (argsWritten hd)).1 hv).1 hf
  | faulty faults => exact ⟨faults, rfl⟩

theorem same_self_of_finite (hf : d.ArgsFinite) (list : SignalList) :
    sameSignals (d.signals list) (d.signals list) :=
  sameSignals_self fun n hn => n.same_self (argsWritten hd list n hn) (hf list n hn)

end

theorem reread_eq_self (h : ∀ x ∈ d.positionSize?, x.isFinite) : d.reread = d := by
  obtain ⟨version, _ | ⟨entry, exit, _ | t, question⟩⟩ := d
  · rfl
  · rfl
  · have ht : t.positionSize.filter (·.isFinite) = t.positionSize := by
      cases hx : t.positionSize with
      | none => rfl
      | some x => exact Option.filter_some_pos (h x hx)
    simp [reread, Strategy.reread, Settings.reread, ht]

theorem reread_eq_without {x : Binary64} (hx : d.positionSize? = some x)
    (h : ¬x.isFinite) : d.reread = d.withoutPositionSize := by
  obtain ⟨version, _ | ⟨entry, exit, _ | t, question⟩⟩ := d
  · cases hx
  · cases hx
  · replace hx : t.positionSize = some x := hx
    simp [reread, withoutPositionSize, Strategy.reread, Settings.reread, hx, h]

/-- Every document that was read can be written, and the text gives the same document, which is
written as the same text, just when all its doubles are finite. With an argument that is not, the
text is none of a document; with only such a position size, it is the text of a document without
one. -/
theorem round_trip_exact (h : read s = .ok d) (indent : Nat) :
    ∃ t, d.write? indent = .ok t ∧
      ((∃ e, read t = .ok e ∧ e.same d ∧ e.write? indent = .ok t) ↔ d.AllFinite) ∧
      (¬d.ArgsFinite → ∃ faults, read t = .error (.misfit faults)) ∧
      (d.ArgsFinite → ∀ x ∈ d.positionSize?, ¬x.isFinite →
        read t = .ok d.withoutPositionSize) := by
  have hd := writtenIn_of_read h
  refine ⟨d.write indent, write?_eq hd, ⟨?_, ?_⟩, exists_misfit_of_read_write hd, ?_⟩
  · rintro ⟨e, he, hsame, -⟩
    obtain ⟨hf, rfl⟩ := (read_write_eq_ok_iff hd).1 he
    exact ⟨hf, (reread_same_iff (same_self_of_finite hd hf)).1 hsame⟩
  · intro hf
    have hself := reread_eq_self hf.positionSize
    have hsame := (reread_same_iff (same_self_of_finite hd hf.args)).2 hf.positionSize
    refine ⟨d, (read_write_eq_ok_iff hd).2 ⟨hf.args, hself.symm⟩, ?_, write?_eq hd⟩
    rwa [hself] at hsame
  · intro hf x hx hnot
    exact (read_write_eq_ok_iff hd).2 ⟨hf, (reread_eq_without hx hnot).symm⟩

theorem infinite_size_lost :
    ∃ d, read "\x7b\"Strategy\": \x7b\"Settings\": \x7b\"PositionSize\": Infinity\x7d\x7d\x7d" =
        .ok d ∧
      ∃ t, d.write? 2 = .ok t ∧ read t = .ok d.withoutPositionSize ∧
        ¬∃ e, read t = .ok e ∧ e.same d ∧ e.write? 2 = .ok t := by
  have hread : ∃ d, read
      "\x7b\"Strategy\": \x7b\"Settings\": \x7b\"PositionSize\": Infinity\x7d\x7d\x7d" = .ok d ∧
        (d.positionSize? == some (.infinite false) && (d.signals .entry).isEmpty &&
          (d.signals .exit).isEmpty) := by
    rw [← any_toOption_iff]
    decide +kernel
  obtain ⟨d, hd, hp⟩ := hread
  simp only [Bool.and_eq_true, beq_iff_eq, List.isEmpty_iff, and_assoc] at hp
  obtain ⟨hx, hentry, hexit⟩ := hp
  have hargs : d.ArgsFinite := by
    rw [ArgsFinite, SignalList.forall_iff, hentry, hexit]
    exact ⟨nofun, nofun⟩
  have hnot : ¬(Binary64.infinite false).isFinite := by decide
  obtain ⟨t, ht, hsame, -, hlost⟩ := round_trip_exact hd 2
  refine ⟨d, hd, t, ht, hlost hargs _ hx hnot, ?_⟩
  intro he
  exact hnot ((hsame.1 he).positionSize _ hx)

end StrategyDocument

end TradingSignals
