import TradingSignals.Json.Bytes
import TradingSignals.Proofs.Json.Loose
import TradingSignals.Proofs.Json.Settled
import TradingSignals.Proofs.Text.Utf8

namespace TradingSignals

/-- A text without surrogates is spelled as it is. -/
theorem spellSurrogates_chars (cs : List Char) (escaped : Bool) :
    spellSurrogates escaped (cs.map .char) = cs := by
  induction cs generalizing escaped with
  | nil => rfl
  | cons c cs ih => rw [List.map_cons, spellSurrogates, ih]

theorem ofString_injective : Function.Injective LooseText.ofString := by
  intro s t h
  have hchar : Function.Injective CodePoint.char := fun _ _ => CodePoint.char.inj
  exact String.toList_inj.1 ((List.map_inj_right hchar).1 h)

section

variable {b : UInt8} {bytes : List UInt8}

/-- No mark of an encoding begins with ASCII other than zero. -/
theorem markedEncoding?_ascii (hb : b.toNat < 0x80) (hz : b ≠ 0) :
    markedEncoding? (b :: bytes) = none := by
  unfold markedEncoding?
  split
  · next h => exact absurd (List.cons.inj h).1 hz
  all_goals
    next h =>
      first
      | rw [(List.cons.inj h).1] at hb
        exact absurd hb (by decide)
      | rfl

/-- Without zeros the units are bytes. -/
theorem jsonEncoding_of_no_zero (h : 0 ∉ bytes) : jsonEncoding bytes = .utf8 := by
  unfold jsonEncoding
  split
  · exact absurd List.mem_cons_self h
  · exact absurd (List.mem_cons_of_mem _ List.mem_cons_self) h
  · exact absurd List.mem_cons_self h
  · exact absurd (List.mem_cons_of_mem _ List.mem_cons_self) h
  · rfl

end

/-- A document text in UTF-8 is taken for UTF-8. -/
theorem decodeJsonBytes?_utf8Bytes {s : String} {v : Json} (h : readJson .strict s = .ok v) :
    decodeJsonBytes? (utf8Bytes s) = some (LooseText.ofString s) := by
  obtain ⟨c, cs, hs, hascii⟩ := exists_ascii_of_readJson h
  have hzero := zero_not_mem_of_readJson h
  have hbytes := utf8Bytes_ascii hs hascii
  have hnone : markedEncoding? (utf8Bytes s) = none := by
    have hnat : (UInt8.ofNat c.toNat).toNat = c.toNat := toNat_byte (by omega)
    rw [hbytes]
    apply markedEncoding?_ascii (by omega)
    intro hz
    apply zero_not_mem_utf8Bytes hzero
    rw [hbytes, hz]
    exact List.mem_cons_self
  rw [decodeJsonBytes?, hnone, jsonEncoding_of_no_zero (zero_not_mem_utf8Bytes hzero)]
  simp only [Option.getD_none, TextEncoding.decode?, decodeUtf8_utf8Bytes]

/-- The bytes of a document text are read as the document, each key once with its last value. -/
theorem readJsonBytes_utf8Bytes {s : String} {v : Json} (h : readJson .strict s = .ok v) :
    readJsonBytes (utf8Bytes s) = .ok (v.settled.mapText LooseText.ofString) := by
  have hspelled : String.ofList (spellSurrogates false (LooseText.ofString s)) = s := by
    rw [LooseText.ofString, spellSurrogates_chars, String.ofList_toList]
  rw [readJsonBytes, decodeJsonBytes?_utf8Bytes h]
  simp only [hspelled, readJson_loose h]
  rw [← JsonTree.settled_mapText ofString_injective]
  rfl

end TradingSignals
