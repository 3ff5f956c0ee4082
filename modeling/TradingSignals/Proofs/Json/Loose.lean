import TradingSignals.Proofs.Json.Reread
import TradingSignals.Proofs.Json.Soundness

namespace TradingSignals

/-- A proper text is the same to both readers. -/
theorem LooseText.eq_ofString {t : LooseText} {s : String} (h : t.toString? = some s) :
    t = ofString s := by
  obtain ⟨cs, hcs, rfl⟩ := Option.map_eq_some_iff.1 h
  have ht : t = cs.map .char := by
    clear h
    induction t generalizing cs with
    | nil =>
      cases hcs
      rfl
    | cons c t ih =>
      rw [List.mapM_cons] at hcs
      obtain ⟨a, ha, hcs⟩ := Option.bind_eq_some_iff.1 hcs
      obtain ⟨as, has, hcs⟩ := Option.bind_eq_some_iff.1 hcs
      cases hcs
      rw [ih as has, List.map_cons]
      cases c with
      | char b =>
        cases ha
        rfl
      | surrogate n => cases ha
  rw [ht, ofString, String.toList_ofList]

namespace JsonReader

variable {cs rest : List Char} {negative : Bool} {v : Json}

/-- No zero character stands in what was read, from the one place to the other. -/
def Passes (cs rest : List Char) : Prop := '\x00' ∈ cs → '\x00' ∈ rest

theorem Passes.trans {mid : List Char} (h : Passes cs mid) (h' : Passes mid rest) :
    Passes cs rest := fun hz => h' (h hz)

theorem Passes.cons {c : Char} (h : Passes cs rest) (hc : c ≠ '\x00') : Passes (c :: cs) rest := by
  intro hz
  rcases List.mem_cons.1 hz with hz | hz
  · exact absurd hz.symm hc
  · exact h hz

theorem Passes.refl (cs : List Char) : Passes cs cs := id

theorem passes_append (word : List Char) (hw : '\x00' ∉ word) : Passes (word ++ rest) rest := by
  intro hz
  exact (List.mem_append.1 hz).resolve_left hw

theorem passes_dropWhile {p : Char → Bool} (hp : p '\x00' = false) (cs : List Char) :
    Passes cs (cs.dropWhile p) := by
  induction cs with
  | nil => exact .refl []
  | cons c cs ih =>
    rw [List.dropWhile_cons]
    split
    · next hc =>
      apply ih.cons
      rintro rfl
      exact Bool.false_ne_true (hp.symm.trans hc)
    · exact .refl _

theorem passes_skipSpace (cs : List Char) : Passes cs (skipSpace cs) :=
  passes_dropWhile (by decide) cs

theorem passes_of_skipSpace {c : Char} (h : skipSpace cs = c :: rest) (hc : c ≠ '\x00') :
    Passes cs rest := by
  apply (passes_skipSpace cs).trans
  rw [h]
  exact (Passes.refl rest).cons hc

theorem hexValue?_ne_zero {c : Char} {n : Nat} (h : hexValue? c = some n) : c ≠ '\x00' := by
  rintro rfl
  cases h

theorem hex4?_ne_zero {a b c d : Char} {n : Nat} (h : hex4? a b c d = some n) :
    a ≠ '\x00' ∧ b ≠ '\x00' ∧ c ≠ '\x00' ∧ d ≠ '\x00' := by
  obtain ⟨i, hi, h⟩ := Option.bind_eq_some_iff.1 h
  obtain ⟨j, hj, h⟩ := Option.bind_eq_some_iff.1 h
  obtain ⟨k, hk, h⟩ := Option.bind_eq_some_iff.1 h
  obtain ⟨l, hl, -⟩ := Option.bind_eq_some_iff.1 h
  exact ⟨hexValue?_ne_zero hi, hexValue?_ne_zero hj, hexValue?_ne_zero hk, hexValue?_ne_zero hl⟩

theorem passes_textBody {done t : LooseText} (h : textBody done cs = some (t, rest)) :
    Passes cs rest := by
  fun_induction textBody done cs with
  | case1 => cases h
  | case2 done cs =>
    cases h
    exact (Passes.refl _).cons (by decide)
  | case3 done a b c d cs n hn ih =>
    obtain ⟨ha, hb, hc, hd⟩ := hex4?_ne_zero hn
    exact (((((ih h).cons hd).cons hc).cons hb).cons ha).cons (by decide) |>.cons (by decide)
  | case4 => cases h
  | case5 done e cs _ c hc ih =>
    have he : e ≠ '\x00' := by
      rintro rfl
      cases hc
    exact ((ih h).cons he).cons (by decide)
  | case6 => cases h
  | case7 => cases h
  | case8 done c cs _ _ _ hc ih =>
    apply (ih h).cons
    rintro rfl
    exact hc (by decide)

/-- Texts that a document may hold are read as they are. -/
theorem text_loose {s : String} (h : text .strict cs = .ok (s, rest)) :
    text .loose cs = .ok (LooseText.ofString s, rest) ∧ Passes cs rest := by
  unfold text at h ⊢
  cases hb : textBody [] cs with
  | none =>
    rw [hb] at h
    cases h
  | some r =>
    obtain ⟨t, rest'⟩ := r
    rw [hb] at h
    dsimp only [JsonGrammar.strict, JsonGrammar.loose] at h ⊢
    cases hs : LooseText.toString? t.pairUp with
    | none =>
      rw [hs] at h
      cases h
    | some s' =>
      rw [hs] at h
      cases h
      rw [LooseText.eq_ofString hs]
      exact ⟨rfl, passes_textBody hb⟩

theorem passes_wholePart (cs : List Char) : Passes cs (cs.drop (wholePart cs).length) := by
  have hp : Passes (wholePart cs ++ cs.drop (wholePart cs).length)
      (cs.drop (wholePart cs).length) :=
    passes_append _ fun hz => absurd (isDigit_of_mem_wholePart hz) (by decide)
  rwa [append_wholePart] at hp

theorem passes_takeFraction (cs : List Char) : Passes cs (takeFraction cs).2 := by
  unfold takeFraction
  split
  · exact (passes_dropWhile (by decide) _).cons (by decide)
  · exact .refl cs

theorem passes_takeSign (cs : List Char) : Passes cs (takeSign cs).2 := by
  unfold takeSign
  split
  · exact (Passes.refl _).cons (by decide)
  · exact (Passes.refl _).cons (by decide)
  · exact .refl cs

theorem passes_takeExponent {e : Int} (h : takeExponent cs = some (e, rest)) : Passes cs rest := by
  unfold takeExponent at h
  split at h
  · cases h
    exact .refl []
  · next c cs =>
    split at h
    · next hc =>
      dsimp only at h
      split at h
      · cases h
        apply Passes.cons _ (by rcases hc with rfl | rfl <;> decide)
        exact (passes_takeSign cs).trans (passes_dropWhile (by decide) _)
      · cases h
    · cases h
      exact .refl _

/-- A number that a document may hold is not too long for the other reader. -/
theorem magnitude_loose (h : magnitude .strict negative cs = .ok (v, rest)) :
    magnitude .loose negative cs = .ok (v.mapText LooseText.ofString, rest) ∧ Passes cs rest := by
  unfold magnitude at h ⊢
  have hwhole := passes_wholePart cs
  dsimp only [JsonGrammar.strict, JsonGrammar.loose] at h ⊢
  generalize cs.drop (wholePart cs).length = after at h hwhole ⊢
  have hfraction : Passes after (if startsWithDigit (after.drop 1) then takeFraction after
      else ([], after)).2 := by
    split
    · exact passes_takeFraction after
    · exact .refl after
  generalize (if startsWithDigit (after.drop 1) then takeFraction after else ([], after)) =
    fraction at h hfraction ⊢
  have hexponent : Passes fraction.2 ((takeExponent fraction.2).getD (0, fraction.2)).2 := by
    cases he : takeExponent fraction.2 with
    | none => exact .refl _
    | some r => exact passes_takeExponent he
  generalize (takeExponent fraction.2).getD (0, fraction.2) = exponent at h hexponent ⊢
  by_cases hne : (wholePart cs).isEmpty
  · rw [if_pos hne] at h
    cases h
  by_cases hl : maxDigits < negative.toNat + (wholePart cs).length
  · simp [hne, hl] at h
  have hl' : ¬maxDigits < (wholePart cs).length := by omega
  by_cases hw : exponent.2.length = after.length
  · simp only [hne, hl, hw, hl', Bool.true_and, Bool.false_and, decide_false, if_true, if_false,
      Bool.false_eq_true] at h ⊢
    cases h
    exact ⟨rfl, hwhole⟩
  · simp only [hne, hl, hw, Bool.true_and, Bool.false_and, decide_false, if_false,
      Bool.false_eq_true] at h ⊢
    cases h
    exact ⟨rfl, hwhole.trans (hfraction.trans hexponent)⟩

theorem atom_loose (h : atom .strict cs = .ok (v, rest)) :
    atom .loose cs = .ok (v.mapText LooseText.ofString, rest) ∧ Passes cs rest := by
  unfold atom at h
  split at h
  · cases h
    exact ⟨rfl, passes_append ['n', 'u', 'l', 'l'] (by decide)⟩
  · cases h
    exact ⟨rfl, passes_append ['t', 'r', 'u', 'e'] (by decide)⟩
  · cases h
    exact ⟨rfl, passes_append ['f', 'a', 'l', 's', 'e'] (by decide)⟩
  · cases h
    exact ⟨rfl, passes_append ['N', 'a', 'N'] (by decide)⟩
  · cases h
    exact ⟨rfl, passes_append ['I', 'n', 'f', 'i', 'n', 'i', 't', 'y'] (by decide)⟩
  · cases h
    exact ⟨rfl, passes_append ['-', 'I', 'n', 'f', 'i', 'n', 'i', 't', 'y'] (by decide)⟩
  · obtain ⟨hm, hp⟩ := magnitude_loose h
    rw [atom]
    · exact ⟨hm, hp.cons (by decide)⟩
    · assumption
  · rw [atom]
    · exact magnitude_loose h
    all_goals assumption

/-- With so much fuel, and room for as many containers, the loose reader takes what the strict one
takes, to the same place, and passes over no zero character. -/
structure LooseWith (fuel : Nat) : Prop where
  value : ∀ {room room' cs v rest}, room ≤ room' → value .strict fuel room cs = .ok (v, rest) →
    value .loose fuel room' cs = .ok (v.mapText LooseText.ofString, rest) ∧ Passes cs rest
  items : ∀ {room room' cs vs rest}, room ≤ room' → items .strict fuel room cs = .ok (vs, rest) →
    items .loose fuel room' cs = .ok (mapTextItems LooseText.ofString vs, rest) ∧ Passes cs rest
  fields : ∀ {room room' cs fs rest}, room ≤ room' →
    fields .strict fuel room cs = .ok (fs, rest) →
    fields .loose fuel room' cs = .ok (mapTextFields LooseText.ofString fs, rest) ∧ Passes cs rest

variable {fuel room room' : Nat}

theorem value_loose (hs : LooseWith fuel) (hroom : room ≤ room')
    (h : value .strict (fuel + 1) room cs = .ok (v, rest)) :
    value .loose (fuel + 1) room' cs = .ok (v.mapText LooseText.ofString, rest) ∧
      Passes cs rest := by
  rw [value_eq_ok_iff] at h ⊢
  rcases h with ⟨more, s, rfl, ht, rfl⟩ | ⟨n, more, rfl, rfl, h⟩ | ⟨n, more, rfl, rfl, h⟩ |
    ⟨hother, h⟩
  · obtain ⟨hl, hp⟩ := text_loose ht
    exact ⟨Or.inl ⟨more, _, rfl, hl, rfl⟩, hp.cons (by decide)⟩
  · obtain ⟨n', rfl⟩ : ∃ k, room' = k + 1 := ⟨room' - 1, by omega⟩
    rcases h with ⟨hend, rfl⟩ | ⟨vs, hnonempty, hi, rfl⟩
    · exact ⟨.inr (.inl ⟨n', more, rfl, rfl, Or.inl ⟨hend, rfl⟩⟩),
        (passes_of_skipSpace hend (by decide)).cons (by decide)⟩
    · obtain ⟨hl, hp⟩ := hs.items (Nat.le_of_succ_le_succ hroom) hi
      exact ⟨.inr (.inl ⟨n', more, rfl, rfl, Or.inr ⟨_, hnonempty, hl, rfl⟩⟩),
        ((passes_skipSpace more).trans hp).cons (by decide)⟩
  · obtain ⟨n', rfl⟩ : ∃ k, room' = k + 1 := ⟨room' - 1, by omega⟩
    rcases h with ⟨hend, rfl⟩ | ⟨fs, hnonempty, hi, rfl⟩
    · exact ⟨.inr (.inr (.inl ⟨n', more, rfl, rfl, Or.inl ⟨hend, rfl⟩⟩)),
        (passes_of_skipSpace hend (by decide)).cons (by decide)⟩
    · obtain ⟨hl, hp⟩ := hs.fields (Nat.le_of_succ_le_succ hroom) hi
      exact ⟨.inr (.inr (.inl ⟨n', more, rfl, rfl, Or.inr ⟨_, hnonempty, hl, rfl⟩⟩)),
        ((passes_skipSpace more).trans hp).cons (by decide)⟩
  · obtain ⟨hl, hp⟩ := atom_loose h
    exact ⟨.inr (.inr (.inr ⟨hother, hl⟩)), hp⟩

theorem items_loose {vs : List Json} (hs : LooseWith fuel) (hroom : room ≤ room')
    (h : items .strict (fuel + 1) room cs = .ok (vs, rest)) :
    items .loose (fuel + 1) room' cs = .ok (mapTextItems LooseText.ofString vs, rest) ∧
      Passes cs rest := by
  obtain ⟨v, after, hv, h⟩ := items_eq_ok_iff.1 h
  obtain ⟨hl, hp⟩ := hs.value hroom hv
  rw [items_eq_ok_iff]
  rcases h with ⟨hend, rfl⟩ | ⟨more, ws, hmore, hi, rfl⟩
  · exact ⟨⟨_, after, hl, Or.inl ⟨hend, rfl⟩⟩, hp.trans (passes_of_skipSpace hend (by decide))⟩
  · obtain ⟨hl', hp'⟩ := hs.items hroom hi
    have hcomma := passes_of_skipSpace hmore (by decide)
    exact ⟨⟨_, after, hl, Or.inr ⟨more, _, hmore, hl', rfl⟩⟩,
      hp.trans (hcomma.trans ((passes_skipSpace more).trans hp'))⟩

theorem fields_loose {fs : List (String × Json)} (hs : LooseWith fuel) (hroom : room ≤ room')
    (h : fields .strict (fuel + 1) room cs = .ok (fs, rest)) :
    fields .loose (fuel + 1) room' cs = .ok (mapTextFields LooseText.ofString fs, rest) ∧
      Passes cs rest := by
  obtain ⟨quoted, k, behind, colon, v, after, rfl, hk, hcolon, hv, h⟩ := fields_eq_ok_iff.1 h
  obtain ⟨hkl, hkp⟩ := text_loose hk
  obtain ⟨hvl, hvp⟩ := hs.value hroom hv
  have hbefore : Passes ('"' :: quoted) after :=
    (hkp.trans ((passes_of_skipSpace hcolon (by decide)).trans
      ((passes_skipSpace colon).trans hvp))).cons (by decide)
  rw [fields_eq_ok_iff]
  rcases h with ⟨hend, rfl⟩ | ⟨more, gs, hmore, hi, rfl⟩
  · exact ⟨⟨quoted, _, behind, colon, _, after, rfl, hkl, hcolon, hvl, Or.inl ⟨hend, rfl⟩⟩,
      hbefore.trans (passes_of_skipSpace hend (by decide))⟩
  · obtain ⟨hl', hp'⟩ := hs.fields hroom hi
    have hcomma := passes_of_skipSpace hmore (by decide)
    exact ⟨⟨quoted, _, behind, colon, _, after, rfl, hkl, hcolon, hvl,
      Or.inr ⟨more, _, hmore, hl', rfl⟩⟩,
      hbefore.trans (hcomma.trans ((passes_skipSpace more).trans hp'))⟩

theorem looseWith (fuel : Nat) : LooseWith fuel := by
  induction fuel with
  | zero =>
    refine ⟨?_, ?_, ?_⟩
    · intro room room' cs v rest _ h
      rw [value.eq_def] at h
      cases h
    · intro room room' cs vs rest _ h
      cases h
    · intro room room' cs fs rest _ h
      rw [fields.eq_def] at h
      cases h
  | succ fuel ih => exact ⟨value_loose ih, items_loose ih, fields_loose ih⟩

theorem isAscii_of_isDigit {c : Char} (h : c.isDigit) : c.toNat < 0x80 := by
  simp only [Char.isDigit, Bool.and_eq_true, decide_eq_true_eq] at h
  have hle : c.toNat ≤ 57 := UInt32.le_iff_toNat_le.1 h.2
  omega

theorem exists_ascii_of_magnitude (h : magnitude .strict negative cs = .ok (v, rest)) :
    ∃ c more, cs = c :: more ∧ c.toNat < 0x80 := by
  obtain ⟨hne, -, -⟩ := magnitude_cases h
  cases cs with
  | nil => exact absurd rfl hne
  | cons c more =>
    refine ⟨c, more, rfl, isAscii_of_isDigit ?_⟩
    by_contra hd
    rw [Bool.not_eq_true] at hd
    apply hne
    rw [wholePart, List.takeWhile_cons, hd]
    rfl

/-- A value begins with ASCII. -/
theorem exists_ascii_of_value (h : value .strict fuel room cs = .ok (v, rest)) :
    ∃ c more, cs = c :: more ∧ c.toNat < 0x80 := by
  cases fuel with
  | zero =>
    rw [value.eq_def] at h
    cases h
  | succ fuel =>
    rcases value_eq_ok_iff.1 h with
      ⟨more, _, rfl, -⟩ | ⟨_, more, -, rfl, -⟩ | ⟨_, more, -, rfl, -⟩ | ⟨-, h⟩
    · exact ⟨'"', more, rfl, by decide⟩
    · exact ⟨'[', more, rfl, by decide⟩
    · exact ⟨'\x7b', more, rfl, by decide⟩
    · unfold atom at h
      split at h
      iterate 7 exact ⟨_, _, rfl, by decide⟩
      · exact exists_ascii_of_magnitude h

end JsonReader

variable {s : String} {v : Json}

/-- What is read as a document is read the same as a body. -/
theorem readJson_loose (h : readJson .strict s = .ok v) :
    readJson .loose s = .ok (v.mapText LooseText.ofString) := by
  rw [readJson_eq_ok_iff] at h ⊢
  obtain ⟨rest, hv, he⟩ := h
  exact ⟨rest, ((JsonReader.looseWith _).value (by decide) hv).1, he⟩

theorem zero_not_mem_of_readJson (h : readJson .strict s = .ok v) : '\x00' ∉ s.toList := by
  rw [readJson_eq_ok_iff] at h
  obtain ⟨rest, hv, he⟩ := h
  intro hz
  have hp := ((JsonReader.looseWith _).value (Nat.le_refl _) hv).2
  have hrest := JsonReader.passes_skipSpace rest (hp (JsonReader.passes_skipSpace _ hz))
  rw [List.isEmpty_iff.1 he] at hrest
  cases hrest

theorem exists_ascii_of_readJson (h : readJson .strict s = .ok v) :
    ∃ c more, s.toList = c :: more ∧ c.toNat < 0x80 := by
  rw [readJson_eq_ok_iff] at h
  obtain ⟨rest, hv, -⟩ := h
  obtain ⟨c, more, hc, hascii⟩ := JsonReader.exists_ascii_of_value hv
  cases hs : s.toList with
  | nil =>
    rw [hs] at hc
    cases hc
  | cons c' more' =>
    refine ⟨c', more', rfl, ?_⟩
    by_cases hspace : JsonReader.isSpace c'
    · simp only [JsonReader.isSpace, Bool.or_eq_true, beq_iff_eq] at hspace
      rcases hspace with ((rfl | rfl) | rfl) | rfl <;> decide
    · rw [hs, JsonReader.skipSpace_cons (Bool.eq_false_iff.2 hspace)] at hc
      cases hc
      exact hascii

end TradingSignals
