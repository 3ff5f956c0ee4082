import TradingSignals.Text.Utf8

namespace TradingSignals

/-- The bytes of a text in UTF-8. -/
def utf8Bytes (s : String) : List UInt8 := s.toList.flatMap String.utf8EncodeChar

section

variable {p : Utf8Pending} {k : Nat} {bytes : List UInt8}

theorem toNat_byte (h : k < 256) : (UInt8.ofNat k).toNat = k := by
  rw [UInt8.toNat_ofNat']
  exact Nat.mod_eq_of_lt h

theorem utf8Pieces_ascii (h : k < 0x80) :
    utf8Pieces none (.ofNat k :: bytes) = .char (Char.ofNat k) :: utf8Pieces none bytes := by
  have hk : (UInt8.ofNat k).toNat = k := toNat_byte (by omega)
  rw [utf8Pieces, Option.elim, Utf8Pending.start, hk, if_pos h]
  rfl

theorem utf8Pieces_lead (h : 0x80 ≤ k) (hb : k < 256)
    (hp : Utf8Pending.ofLead (.ofNat k) = some p) :
    utf8Pieces none (.ofNat k :: bytes) = utf8Pieces (some p) bytes := by
  have hk : (UInt8.ofNat k).toNat = k := toNat_byte hb
  rw [utf8Pieces, Option.elim, Utf8Pending.start, hk, if_neg (by omega), hp]
  rfl

/-- A byte in range that is not the last one of its character. -/
theorem utf8Pieces_more {low high : UInt8} {owed bits : Nat} {taken : List UInt8}
    (hl : low.toNat ≤ k) (hh : k ≤ high.toNat) :
    utf8Pieces (some ⟨taken, owed + 2, low, high, bits⟩) (.ofNat k :: bytes) =
      utf8Pieces (some ⟨taken ++ [.ofNat k], owed + 1, 0x80, 0xBF, bits * 64 + k % 64⟩) bytes := by
  have hk : (UInt8.ofNat k).toNat = k := toNat_byte (Nat.lt_of_le_of_lt hh high.toNat_lt)
  have hrange : low ≤ .ofNat k ∧ .ofNat k ≤ high := by
    rw [UInt8.le_iff_toNat_le, UInt8.le_iff_toNat_le, hk]
    exact ⟨hl, hh⟩
  rw [utf8Pieces, Option.elim, Utf8Pending.next, if_pos hrange, hk]
  rfl

theorem utf8Pieces_last {low high : UInt8} {bits : Nat} {taken : List UInt8}
    (hl : low.toNat ≤ k) (hh : k ≤ high.toNat) :
    utf8Pieces (some ⟨taken, 1, low, high, bits⟩) (.ofNat k :: bytes) =
      .char (Char.ofNat (bits * 64 + k % 64)) :: utf8Pieces none bytes := by
  have hk : (UInt8.ofNat k).toNat = k := toNat_byte (Nat.lt_of_le_of_lt hh high.toNat_lt)
  have hrange : low ≤ .ofNat k ∧ .ofNat k ≤ high := by
    rw [UInt8.le_iff_toNat_le, UInt8.le_iff_toNat_le, hk]
    exact ⟨hl, hh⟩
  rw [utf8Pieces, Option.elim, Utf8Pending.next, if_pos hrange, hk]
  rfl

end

namespace Utf8Pending

variable {k : Nat}

theorem ofLead_two (h : 0xC2 ≤ k) (hk : k < 0xE0) :
    ofLead (.ofNat k) = some ⟨[.ofNat k], 1, 0x80, 0xBF, k % 32⟩ := by
  unfold ofLead
  rw [toNat_byte (by omega)]
  dsimp only
  rw [if_neg (by omega), if_pos hk]

theorem ofLead_three (h : 0xE0 ≤ k) (hk : k < 0xF0) :
    ofLead (.ofNat k) = some ⟨[.ofNat k], 2, if k = 0xE0 then 0xA0 else 0x80,
      if k = 0xED then 0x9F else 0xBF, k % 16⟩ := by
  unfold ofLead
  rw [toNat_byte (by omega)]
  dsimp only
  rw [if_neg (by omega), if_neg (by omega), if_pos hk]

theorem ofLead_four (h : 0xF0 ≤ k) (hk : k < 0xF5) :
    ofLead (.ofNat k) = some ⟨[.ofNat k], 3, if k = 0xF0 then 0x90 else 0x80,
      if k = 0xF4 then 0x8F else 0xBF, k % 8⟩ := by
  unfold ofLead
  rw [toNat_byte (by omega)]
  dsimp only
  rw [if_neg (by omega), if_neg (by omega), if_neg (by omega), if_pos hk]

end Utf8Pending

/-- The range of a second byte that may be restricted. -/
theorem toNat_ite {p : Prop} [Decidable p] {b b' : UInt8} :
    (if p then b else b').toNat = if p then b.toNat else b'.toNat := by
  split <;> rfl

/-- The bytes of a character are read back as the character. -/
theorem utf8Pieces_utf8EncodeChar (c : Char) (bytes : List UInt8) :
    utf8Pieces none (String.utf8EncodeChar c ++ bytes) = .char c :: utf8Pieces none bytes := by
  have hvalid : c.val.toNat.isValidChar := c.valid
  have hc : Char.ofNat c.val.toNat = c := Char.ofNat_toNat c
  unfold String.utf8EncodeChar
  generalize c.val.toNat = v at hvalid hc
  unfold Nat.isValidChar at hvalid
  have hread : ∀ bits, bits = v → Utf8Piece.char (Char.ofNat bits) = .char c := by
    rintro bits rfl
    rw [hc]
  dsimp only
  split
  · rw [List.singleton_append, utf8Pieces_ascii (by omega), hread _ rfl]
  split
  · rw [List.cons_append, List.singleton_append,
      utf8Pieces_lead (by omega) (by omega) (Utf8Pending.ofLead_two (by omega) (by omega)),
      utf8Pieces_last, hread _ (by omega)]
    · show 0x80 ≤ _
      omega
    · show _ ≤ 0xBF
      omega
  split
  · -- the second byte keeps out what has a shorter form, and the surrogates
    simp only [List.cons_append, List.nil_append]
    rw [utf8Pieces_lead (by omega) (by omega) (Utf8Pending.ofLead_three (by omega) (by omega)),
      utf8Pieces_more, utf8Pieces_last, hread _ (by omega)]
    · show 0x80 ≤ _
      omega
    · show _ ≤ 0xBF
      omega
    · rw [toNat_ite]
      show (if _ then 0xA0 else 0x80) ≤ _
      split <;> omega
    · rw [toNat_ite]
      show _ ≤ if _ then 0x9F else 0xBF
      split <;> omega
  · simp only [List.cons_append, List.nil_append]
    rw [utf8Pieces_lead (by omega) (by omega) (Utf8Pending.ofLead_four (by omega) (by omega)),
      utf8Pieces_more, utf8Pieces_more, utf8Pieces_last, hread _ (by omega)]
    · show 0x80 ≤ _
      omega
    · show _ ≤ 0xBF
      omega
    · show 0x80 ≤ _
      omega
    · show _ ≤ 0xBF
      omega
    · rw [toNat_ite]
      show (if _ then 0x90 else 0x80) ≤ _
      split <;> omega
    · rw [toNat_ite]
      show _ ≤ if _ then 0x8F else 0xBF
      split <;> omega

theorem utf8Pieces_utf8Bytes (cs : List Char) :
    utf8Pieces none (cs.flatMap String.utf8EncodeChar) = cs.map .char := by
  induction cs with
  | nil => rfl
  | cons c cs ih => rw [List.flatMap_cons, utf8Pieces_utf8EncodeChar, ih, List.map_cons]

theorem utf8Text_char (cs : List Char) (position : Nat) :
    utf8Text position (cs.map .char) = .ok cs := by
  induction cs generalizing position with
  | nil => rfl
  | cons c cs ih =>
    rw [List.map_cons, utf8Text, ih]
    rfl

/-- What was encoded is decoded again. -/
theorem decodeUtf8_utf8Bytes (s : String) : decodeUtf8 (utf8Bytes s) = .ok s := by
  rw [decodeUtf8, utf8Bytes, utf8Pieces_utf8Bytes, utf8Text_char]
  exact congrArg Except.ok (String.ofList_toList)

/-- A zero byte comes from nothing but the zero character. -/
theorem zero_not_mem_utf8Bytes {s : String} (h : '\x00' ∉ s.toList) : 0 ∉ utf8Bytes s := by
  unfold utf8Bytes
  rw [List.mem_flatMap]
  rintro ⟨c, hc, hz⟩
  have hne : c.val.toNat ≠ 0 := by
    intro hzero
    have : c = '\x00' := Char.ext (UInt32.toNat_inj.1 hzero)
    exact h (this ▸ hc)
  have hbyte : ∀ {k}, 0 < k → k < 256 → (0 : UInt8) ≠ .ofNat k := by
    intro k hk hb he
    have := congrArg UInt8.toNat he
    rw [toNat_byte hb] at this
    exact Nat.ne_of_lt hk this
  unfold String.utf8EncodeChar at hz
  generalize c.val.toNat = v at hne hz
  dsimp only at hz
  split at hz
  · rw [List.mem_singleton] at hz
    exact hbyte (by omega) (by omega) hz
  split at hz
  · simp only [List.mem_cons, List.not_mem_nil, or_false] at hz
    rcases hz with hz | hz <;> exact hbyte (by omega) (by omega) hz
  split at hz
  · simp only [List.mem_cons, List.not_mem_nil, or_false] at hz
    rcases hz with hz | hz | hz <;> exact hbyte (by omega) (by omega) hz
  · simp only [List.mem_cons, List.not_mem_nil, or_false] at hz
    rcases hz with hz | hz | hz | hz <;> exact hbyte (by omega) (by omega) hz

/-- A text that begins with ASCII is encoded to bytes that do. -/
theorem utf8Bytes_ascii {c : Char} {cs : List Char} {s : String} (hs : s.toList = c :: cs)
    (h : c.toNat < 0x80) :
    utf8Bytes s = .ofNat c.toNat :: cs.flatMap String.utf8EncodeChar := by
  have hc : String.utf8EncodeChar c = [.ofNat c.toNat] := by
    rw [String.utf8EncodeChar]
    exact if_pos (Nat.le_of_lt_succ h)
  rw [utf8Bytes, hs, List.flatMap_cons, hc, List.singleton_append]

end TradingSignals
