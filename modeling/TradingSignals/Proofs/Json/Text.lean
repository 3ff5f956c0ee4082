import TradingSignals.Json.Reader
import TradingSignals.Json.Writer

namespace TradingSignals

/-- The units that a character is spelled by: two surrogates when it has to be escaped and takes
two escapes. -/
def JsonStyle.units (style : JsonStyle) (c : Char) : LooseText :=
  if style.asciiOnly = true ∧ 0x10000 ≤ c.toNat then
    [.surrogate (0xD800 + (c.toNat - 0x10000) / 0x400),
     .surrogate (0xDC00 + (c.toNat - 0x10000) % 0x400)]
  else [.char c]

theorem LooseText.toString?_chars (cs : List Char) :
    LooseText.toString? (cs.map .char) = some (String.ofList cs) := by
  have h : (cs.map CodePoint.char).mapM CodePoint.char? = some cs := by
    induction cs with
    | nil => rfl
    | cons c cs ih => simp [List.mapM_cons, ih, CodePoint.char?]
  rw [toString?, h]
  rfl

namespace JsonReader

variable {done : LooseText} {cs : List Char} {style : JsonStyle}

theorem hexValue?_digitChar : ∀ d < 16, hexValue? (Nat.digitChar d) = some d := by decide

theorem toDigits_succ {n : Nat} (h : 16 ≤ n) :
    Nat.toDigits 16 n = Nat.toDigits 16 (n / 16) ++ [Nat.digitChar (n % 16)] := by
  rw [Nat.toDigits_eq_if (by decide), if_neg (by omega)]

theorem hexText_four {n : Nat} (h : n < 0x10000) :
    hexText 4 n = [Nat.digitChar (n / 4096), Nat.digitChar (n / 256 % 16),
      Nat.digitChar (n / 16 % 16), Nat.digitChar (n % 16)] := by
  have hd1 : n / 16 / 16 = n / 256 := Nat.div_div_eq_div_mul ..
  have hd2 : n / 256 / 16 = n / 4096 := Nat.div_div_eq_div_mul ..
  unfold hexText
  by_cases h1 : n < 16
  · rw [Nat.toDigits_of_lt_base h1]
    rw [show n / 4096 = 0 by omega, show n / 256 % 16 = 0 by omega,
      show n / 16 % 16 = 0 by omega, Nat.mod_eq_of_lt h1]
    rfl
  rw [toDigits_succ (Nat.le_of_not_lt h1)]
  by_cases h2 : n / 16 < 16
  · rw [Nat.toDigits_of_lt_base h2, show n / 4096 = 0 by omega,
      show n / 256 % 16 = 0 by omega, Nat.mod_eq_of_lt h2]
    rfl
  rw [toDigits_succ (Nat.le_of_not_lt h2), hd1]
  by_cases h3 : n / 256 < 16
  · rw [Nat.toDigits_of_lt_base h3, show n / 4096 = 0 by omega, Nat.mod_eq_of_lt h3]
    rfl
  rw [toDigits_succ (Nat.le_of_not_lt h3), hd2, Nat.toDigits_of_lt_base (by omega)]
  rfl

theorem textBody_unitEscape {n : Nat} (h : n < 0x10000) :
    textBody done (JsonStyle.unitEscape n ++ cs) = textBody (.ofUnit n :: done) cs := by
  have hv : hex4? (Nat.digitChar (n / 4096)) (Nat.digitChar (n / 256 % 16))
      (Nat.digitChar (n / 16 % 16)) (Nat.digitChar (n % 16)) = some n := by
    simp only [hex4?, hexValue?_digitChar _ (show n / 4096 < 16 by omega),
      hexValue?_digitChar _ (Nat.mod_lt _ (show 16 > 0 by decide)), Option.bind_eq_bind,
      Option.bind_some, Option.pure_def, Option.some.injEq]
    omega
  rw [JsonStyle.unitEscape, hexText_four h]
  show textBody done ('\\' :: 'u' :: _ :: _ :: _ :: _ :: cs) = _
  rw [textBody, hv]

/-- No character is a surrogate. -/
theorem ofUnit_toNat {c : Char} : CodePoint.ofUnit c.toNat = .char c := by
  have hc : c.toNat < 0xD800 ∨ 0xDFFF < c.toNat ∧ c.toNat < 0x110000 := c.valid
  rw [CodePoint.ofUnit, if_neg (by omega), Char.ofNat_toNat]

theorem units_of_lt {c : Char} (h : c.toNat < 0x10000) : style.units c = [.char c] :=
  if_neg (by omega)

/-- An escaped character past the first plane is read as two units, any other as itself. -/
theorem textBody_wideEscape {c : Char} (h : style.asciiOnly = true ∨ c.toNat < 0x10000) :
    textBody done (JsonStyle.wideEscape c.toNat ++ cs) =
      textBody ((style.units c).reverse ++ done) cs := by
  by_cases hw : c.toNat < 0x10000
  · rw [units_of_lt hw, JsonStyle.wideEscape, if_pos hw, textBody_unitEscape hw, ofUnit_toNat]
    rfl
  · have hc : c.toNat < 0xD800 ∨ 0xDFFF < c.toNat ∧ c.toNat < 0x110000 := c.valid
    have hu : style.asciiOnly = true ∧ 0x10000 ≤ c.toNat :=
      ⟨h.resolve_right hw, Nat.le_of_not_lt hw⟩
    rw [JsonStyle.wideEscape, if_neg hw, JsonStyle.units, if_pos hu, List.append_assoc,
      textBody_unitEscape (by omega), textBody_unitEscape (by omega), CodePoint.ofUnit,
      CodePoint.ofUnit, if_pos (by omega), if_pos (by omega)]
    rfl

/-- Every character is read back from its escape, as the units it is spelled by. -/
theorem textBody_escape {c : Char} :
    textBody done (style.escape c ++ cs) = textBody ((style.units c).reverse ++ done) cs := by
  unfold JsonStyle.escape
  by_cases h1 : c = '"'
  · subst h1; simp [textBody, escaped?, units_of_lt]
  by_cases h2 : c = '\\'
  · subst h2; simp [textBody, escaped?, units_of_lt]
  by_cases h3 : c = '\n'
  · subst h3; simp [textBody, escaped?, units_of_lt]
  by_cases h4 : c = '\r'
  · subst h4; simp [textBody, escaped?, units_of_lt]
  by_cases h5 : c = '\t'
  · subst h5; simp [textBody, escaped?, units_of_lt]
  by_cases h6 : c = '\x08'
  · subst h6; simp [textBody, escaped?, units_of_lt]
  by_cases h7 : c = '\x0c'
  · subst h7; simp [textBody, escaped?, units_of_lt]
  simp only [h1, h2, h3, h4, h5, h6, h7, or_self, if_false]
  by_cases h8 : c < ' ' ∨ (style.asciiOnly = true ∧ '~' < c)
  · rw [if_pos h8, textBody_wideEscape]
    rcases h8 with h8 | h8
    · have hn : c.toNat < 32 := UInt32.lt_iff_toNat_lt.1 h8
      exact Or.inr (by omega)
    · exact Or.inl h8.1
  · have hu : style.units c = [.char c] := by
      by_cases ha : style.asciiOnly = true
      · have hn : ¬126 < c.toNat := fun hn => h8 (Or.inr ⟨ha, UInt32.lt_iff_toNat_lt.2 hn⟩)
        exact units_of_lt (by omega)
      · exact if_neg fun hu => ha hu.1
    have hc : ¬c < ' ' := fun hc => h8 (Or.inl hc)
    rw [if_neg h8, hu]
    simp [h2, hc, textBody]

theorem textBody_flatMap {s : List Char} :
    textBody done (s.flatMap style.escape ++ '"' :: cs) =
      some (done.reverse ++ s.flatMap style.units, cs) := by
  induction s generalizing done with
  | nil => simp [textBody]
  | cons c s ih =>
    rw [List.flatMap_cons, List.append_assoc, textBody_escape, ih]
    simp

/-- The units of a character make it up again, whatever characters follow. -/
theorem pairUp_units (s : List Char) : LooseText.pairUp (s.flatMap style.units) = s.map .char := by
  induction s with
  | nil => rfl
  | cons c s ih =>
    have hcons : LooseText.pairUp (style.units c ++ s.flatMap style.units) =
        (style.units c).foldr CodePoint.cons (s.map .char) := by
      rw [← ih, LooseText.pairUp, List.foldr_append]
      rfl
    rw [List.flatMap_cons, hcons, List.map_cons, JsonStyle.units]
    split
    · next h =>
      have hc : c.toNat < 0xD800 ∨ 0xDFFF < c.toNat ∧ c.toNat < 0x110000 := c.valid
      have hlow : ∀ n, CodePoint.cons (.surrogate n) (s.map .char) =
          .surrogate n :: s.map .char := by
        intro n
        cases s <;> rfl
      rw [List.foldr_cons, List.foldr_cons, List.foldr_nil, hlow, CodePoint.cons, if_pos (by omega)]
      have hn : 0x10000 + (0xD800 + (c.toNat - 0x10000) / 0x400 - 0xD800) * 0x400 +
          (0xDC00 + (c.toNat - 0x10000) % 0x400 - 0xDC00) = c.toNat := by omega
      rw [hn, Char.ofNat_toNat]
    · rfl

/-- A text is read as itself. -/
theorem text_written {τ : Type} {g : JsonGrammar τ} {copy : String → τ}
    (hg : ∀ s, g.text (LooseText.ofString s) = some (copy s)) {s : String} :
    text g (s.toList.flatMap style.escape ++ '"' :: cs) = .ok (copy s, cs) := by
  have hs : g.text (s.toList.map CodePoint.char) = some (copy s) := hg s
  simp only [text, textBody_flatMap, List.reverse_nil, List.nil_append, pairUp_units, hs]

end JsonReader

end TradingSignals
