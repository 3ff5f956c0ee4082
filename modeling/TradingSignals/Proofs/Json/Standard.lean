import TradingSignals.Proofs.Json.Reread

namespace TradingSignals

-- The grammar of the JSON standard.
namespace Standard

def Blank (cs : List Char) : Prop := ∀ c ∈ cs, c ∈ [' ', '\t', '\n', '\r']

def Digits (cs : List Char) : Prop := cs ≠ [] ∧ ∀ c ∈ cs, c.isDigit

inductive Fraction : List Char → Prop
  | none : Fraction []
  | some {ds : List Char} (hd : Digits ds) : Fraction ('.' :: ds)

inductive Exponent : List Char → Prop
  | none : Exponent []
  | some {mark : Char} {sign ds : List Char} (hm : mark ∈ ['e', 'E'])
    (hs : sign ∈ [[], ['+'], ['-']]) (hd : Digits ds) : Exponent (mark :: (sign ++ ds))

inductive Number : List Char → Prop
  | mk {sign whole fraction exponent : List Char} (hs : sign ∈ [[], ['-']]) (hw : Digits whole)
    (hz : whole.head? = some '0' → whole = ['0']) (hf : Fraction fraction)
    (he : Exponent exponent) : Number (sign ++ (whole ++ (fraction ++ exponent)))

def Hex (c : Char) : Prop := c.isDigit ∨ 'a' ≤ c ∧ c ≤ 'f' ∨ 'A' ≤ c ∧ c ≤ 'F'

/-- A character of a text as it stands, or its escape. -/
inductive Letter : List Char → Prop
  | plain {c : Char} (hc : ' ' ≤ c) (hq : c ≠ '"') (hb : c ≠ '\\') : Letter [c]
  | escape {c : Char} (hc : c ∈ ['"', '\\', '/', 'b', 'f', 'n', 'r', 't']) : Letter ['\\', c]
  | unit {a b c d : Char} (ha : Hex a) (hb : Hex b) (hc : Hex c) (hd : Hex d) :
    Letter ['\\', 'u', a, b, c, d]

inductive Letters : List Char → Prop
  | nil : Letters []
  | cons {letter cs : List Char} (hl : Letter letter) (hs : Letters cs) : Letters (letter ++ cs)

inductive Text : List Char → Prop
  | mk {cs : List Char} (hs : Letters cs) : Text ('"' :: (cs ++ ['"']))

mutual

inductive Value : List Char → Prop
  | null : Value ['n', 'u', 'l', 'l']
  | true : Value ['t', 'r', 'u', 'e']
  | false : Value ['f', 'a', 'l', 's', 'e']
  | number {cs : List Char} (h : Number cs) : Value cs
  | text {cs : List Char} (h : Text cs) : Value cs
  | noItems {bs : List Char} (hb : Blank bs) : Value ('[' :: (bs ++ [']']))
  | array {cs : List Char} (h : Items cs) : Value ('[' :: (cs ++ [']']))
  | noFields {bs : List Char} (hb : Blank bs) : Value ('\x7b' :: (bs ++ ['\x7d']))
  | object {cs : List Char} (h : Fields cs) : Value ('\x7b' :: (cs ++ ['\x7d']))

/-- A value with blanks around it. -/
inductive Item : List Char → Prop
  | mk {bs cs as : List Char} (hb : Blank bs) (hv : Value cs) (ha : Blank as) :
    Item (bs ++ (cs ++ as))

inductive Items : List Char → Prop
  | last {cs : List Char} (h : Item cs) : Items cs
  | more {cs rest : List Char} (h : Item cs) (hr : Items rest) : Items (cs ++ ',' :: rest)

inductive Field : List Char → Prop
  | mk {bs key as cs : List Char} (hb : Blank bs) (hk : Text key) (ha : Blank as)
    (hv : Item cs) : Field (bs ++ (key ++ (as ++ ':' :: cs)))

inductive Fields : List Char → Prop
  | last {cs : List Char} (h : Field cs) : Fields cs
  | more {cs rest : List Char} (h : Field cs) (hr : Fields rest) : Fields (cs ++ ',' :: rest)

end

/-- A text of the standard: one value. -/
def Accepts (s : String) : Prop := Item s.toList

theorem blank_nil : Blank [] := List.forall_mem_nil _

theorem digits_natText {n : Nat} : Digits (natText n) :=
  ⟨natText_ne_nil n, fun _ hc => isDigit_of_mem_natText hc⟩

theorem mem_signs (negative : Bool) : (if negative then ['-'] else []) ∈ [[], ['-']] := by
  cases negative <;> decide

theorem number_intText {n : Int} : Number (intText n) := by
  have hz : (natText n.natAbs).head? = some '0' → natText n.natAbs = ['0'] := by
    intro h
    by_cases hn : n.natAbs = 0
    · rw [hn]
      rfl
    · exact absurd h (head_natText hn)
  have h := Number.mk (mem_signs (decide (n < 0))) digits_natText hz .none .none
  rw [List.append_nil, List.append_nil] at h
  rw [intText_eq]
  exact h

theorem number_decimalText (negative : Bool) (t : DecimalText) :
    Number ((if negative then ['-'] else []) ++ t.text) := by
  have hf : Fraction (DecimalText.fractionText t.fraction) := by
    unfold DecimalText.fractionText
    split
    · exact .none
    · next hne => exact .some ⟨hne, t.fraction_digits⟩
  have he : Exponent (DecimalText.exponentText t.exponent) := by
    cases hx : t.exponent with
    | none => exact .none
    | some x =>
      obtain ⟨below, ds⟩ := x
      have hs : [if below then '-' else '+'] ∈ [[], ['+'], ['-']] := by
        cases below <;> decide
      exact Exponent.some List.mem_cons_self hs (t.exponent_digits _ hx)
  exact .mk (mem_signs negative) ⟨t.whole_ne_nil, t.whole_digits⟩ t.zero_alone hf he

theorem number_text (style : FloatStyle) {x : Binary64} (hx : x.isFinite) :
    Number (style.text x) := by
  cases x with
  | nan => cases hx
  | infinite negative => cases hx
  | finite negative units fits =>
    obtain ⟨t, ht, -⟩ := style.text_finite
    rw [ht]
    exact number_decimalText negative t

theorem Letters.append {cs ds : List Char} (hc : Letters cs) (hd : Letters ds) :
    Letters (cs ++ ds) := by
  induction hc with
  | nil => exact hd
  | cons hl hs ih =>
    rw [List.append_assoc]
    exact .cons hl ih

theorem Letter.letters {letter : List Char} (h : Letter letter) : Letters letter := by
  rw [← List.append_nil letter]
  exact .cons h .nil

theorem hex_digitChar : ∀ d < 16, Hex (Nat.digitChar d) := by
  unfold Hex
  decide

theorem letter_unitEscape {n : Nat} (h : n < 0x10000) : Letter (JsonStyle.unitEscape n) := by
  have hlow : ∀ m, Hex (Nat.digitChar (m % 16)) := fun m =>
    hex_digitChar _ (Nat.mod_lt m (by decide))
  rw [JsonStyle.unitEscape, JsonReader.hexText_four h]
  exact .unit (hex_digitChar _ (by omega)) (hlow _) (hlow _) (hlow _)

theorem letters_wideEscape {c : Char} : Letters (JsonStyle.wideEscape c.toNat) := by
  have hc : c.toNat < 0xD800 ∨ 0xDFFF < c.toNat ∧ c.toNat < 0x110000 := c.valid
  unfold JsonStyle.wideEscape
  split
  · next h => exact (letter_unitEscape h).letters
  · exact .cons (letter_unitEscape (by omega)) (letter_unitEscape (by omega)).letters

theorem letters_escape {style : JsonStyle} {c : Char} : Letters (style.escape c) := by
  have hshort : ∀ e ∈ ['"', '\\', '/', 'b', 'f', 'n', 'r', 't'], Letters ['\\', e] :=
    fun e he => (Letter.escape he).letters
  unfold JsonStyle.escape
  split_ifs with h1 h2 h3 h4 h5 h6 h7
  · rcases h1 with rfl | rfl
    · exact hshort _ (by decide)
    · exact hshort _ (by decide)
  · exact hshort _ (by decide)
  · exact hshort _ (by decide)
  · exact hshort _ (by decide)
  · exact hshort _ (by decide)
  · exact hshort _ (by decide)
  · exact letters_wideEscape
  · rw [not_or] at h1 h7
    exact (Letter.plain (Char.not_lt.1 h7.1) h1.1 h1.2).letters

theorem text_written {style : JsonStyle} {s : String} : Text (style.text s) := by
  apply Text.mk
  induction s.toList with
  | nil => exact .nil
  | cons c cs ih =>
    rw [List.flatMap_cons]
    exact letters_escape.append ih

theorem blank_of_isSpace {cs : List Char} (h : ∀ c ∈ cs, JsonReader.isSpace c) : Blank cs := by
  intro c hc
  have hs := h c hc
  simp only [JsonReader.isSpace, Bool.or_eq_true, beq_iff_eq] at hs
  simp only [List.mem_cons, List.not_mem_nil, or_false]
  tauto

section

variable {τ : Type} {g : JsonGrammar τ} {copy : String → τ} {out : Json → JsonTree τ}
  {style : JsonStyle} {level : Nat}

theorem blank_newline : Blank (style.newline level) := blank_of_isSpace JsonReader.blank_newline

theorem items_written (hs : style.Readable g copy out) {items : List Json} {v : Json}
    {bs as : List Char} (hv : ∀ w ∈ v :: items, Value (style.value level w)) (hb : Blank bs)
    (ha : Blank as) : Items (bs ++ (style.value level v ++ (style.items level items ++ as))) := by
  induction items generalizing v bs with
  | nil => exact .last (.mk hb (hv v List.mem_cons_self) ha)
  | cons w items ih =>
    obtain ⟨n, hn⟩ := hs.itemMark
    have hfirst : Item (bs ++ (style.value level v ++ [])) :=
      .mk hb (hv v List.mem_cons_self) blank_nil
    have hbetween : Blank (List.replicate n ' ' ++ style.newline level) :=
      blank_of_isSpace JsonReader.blank_between
    have hrest := ih (fun u hu => hv u (List.mem_cons_of_mem v hu)) hbetween
    have h := Items.more hfirst hrest
    simpa [JsonStyle.items, hn] using h

theorem field_written (hs : style.Readable g copy out) {k : String} {v : Json} {bs as : List Char}
    (hv : Value (style.value level v)) (hb : Blank bs) (ha : Blank as) :
    Field (bs ++ (style.text k ++ (style.keyMark.toList ++ (style.value level v ++ as)))) := by
  obtain ⟨n, hn⟩ := hs.keyMark
  have hblank : Blank (List.replicate n ' ') := blank_of_isSpace JsonReader.blank_replicate
  have hk : Text (style.text k) := text_written
  have h := Field.mk hb hk blank_nil (.mk hblank hv ha)
  rw [List.nil_append] at h
  rw [hn]
  exact h

theorem fields_written (hs : style.Readable g copy out) {fields : List (String × Json)}
    {k : String} {v : Json} {bs as : List Char}
    (hv : ∀ f ∈ (k, v) :: fields, Value (style.value level f.2)) (hb : Blank bs) (ha : Blank as) :
    Fields (bs ++ (style.text k ++ (style.keyMark.toList ++ (style.value level v ++
      (style.fields level fields ++ as))))) := by
  induction fields generalizing k v bs with
  | nil => exact .last (field_written hs (hv (k, v) List.mem_cons_self) hb ha)
  | cons f fields ih =>
    obtain ⟨n, hn⟩ := hs.itemMark
    have hfirst := field_written hs (k := k) (hv (k, v) List.mem_cons_self) hb blank_nil
    have hbetween : Blank (List.replicate n ' ' ++ style.newline level) :=
      blank_of_isSpace JsonReader.blank_between
    have hrest := ih (k := f.1) (v := f.2) (fun g hg => hv g (List.mem_cons_of_mem _ hg)) hbetween
    have h := Fields.more hfirst hrest
    simpa [JsonStyle.fields, hn] using h

/-- A value without doubles that are not finite is written as the standard has it. -/
theorem value_written (hs : style.Readable g copy out) {v : Json} (hv : v.AllFinite) :
    Value (style.value level v) := by
  induction v using JsonTree.induct generalizing level with
  | null => exact .null
  | bool b =>
    cases b with
    | true => exact .true
    | false => exact .false
  | int n => exact .number number_intText
  | float x => exact .number (number_text style.float hv)
  | text s => exact .text text_written
  | array items ih =>
    cases items with
    | nil => exact .noItems blank_nil
    | cons v items =>
      have hvalue : ∀ w ∈ v :: items, Value (style.value (level + 1) w) := fun w hw =>
        ih w hw (JsonTree.allFinite_array_iff.1 hv w hw)
      have hopen : Blank (style.newline (level + 1)) := blank_newline
      have hclose : Blank (style.newline level) := blank_newline
      have h := Value.array (items_written hs hvalue hopen hclose)
      simpa [JsonStyle.value] using h
  | object fields ih =>
    cases fields with
    | nil => exact .noFields blank_nil
    | cons f fields =>
      obtain ⟨k, v⟩ := f
      have hvalue : ∀ f ∈ (k, v) :: fields, Value (style.value (level + 1) f.2) := fun f hf =>
        ih f hf (JsonTree.allFinite_object_iff.1 hv f hf)
      have hopen : Blank (style.newline (level + 1)) := blank_newline
      have hclose : Blank (style.newline level) := blank_newline
      have h := Value.object (fields_written hs hvalue hopen hclose)
      simpa [JsonStyle.value] using h

end

/-- Whether an N or an I stands outside of the texts; true says that a text has begun. -/
def shouts : Bool → List Char → Bool
  | _, [] => false
  | false, c :: cs => c == 'N' || c == 'I' || shouts (c == '"') cs
  | true, '\\' :: _ :: cs => shouts true cs
  | true, c :: cs => shouts (c != '"') cs

def Quiet (cs : List Char) : Prop := ∀ rest, shouts false (cs ++ rest) = shouts false rest

def Loud (cs : List Char) : Prop := ∀ rest, shouts false (cs ++ rest) = true

section

variable {cs ds : List Char}

theorem quiet_nil : Quiet [] := fun _ => rfl

theorem Quiet.append (hc : Quiet cs) (hd : Quiet ds) : Quiet (cs ++ ds) := by
  intro rest
  rw [List.append_assoc, hc, hd]

theorem Quiet.cons {c : Char} (hc : c ∉ ['N', 'I', '"']) (h : Quiet cs) : Quiet (c :: cs) := by
  intro rest
  simp only [List.mem_cons, List.not_mem_nil, or_false, not_or] at hc
  rw [List.cons_append, shouts, beq_false_of_ne hc.1, beq_false_of_ne hc.2.1,
    beq_false_of_ne hc.2.2]
  exact h rest

theorem quiet_of_forall (h : ∀ c ∈ cs, c ∉ ['N', 'I', '"']) : Quiet cs := by
  induction cs with
  | nil => exact quiet_nil
  | cons c cs ih =>
    exact .cons (h c List.mem_cons_self) (ih fun d hd => h d (List.mem_cons_of_mem c hd))

theorem Blank.quiet (h : Blank cs) : Quiet cs := by
  apply quiet_of_forall
  intro c hc
  have hall : ∀ c ∈ [' ', '\t', '\n', '\r'], c ∉ ['N', 'I', '"'] := by simp
  exact hall c (h c hc)

theorem Digits.quiet (h : Digits cs) : Quiet cs := by
  apply quiet_of_forall
  intro c hc hn
  have hall : ∀ c ∈ ['N', 'I', '"'], c.isDigit = false := by simp
  exact absurd (h.2 c hc) (ne_true_of_eq_false (hall c hn))

theorem Number.quiet (h : Number cs) : Quiet cs := by
  have hsign : ∀ sign ∈ [[], ['+'], ['-']], ∀ c ∈ sign, c ∉ ['N', 'I', '"'] := by simp
  have hmark : ∀ c ∈ ['e', 'E'], c ∉ ['N', 'I', '"'] := by simp
  cases h with
  | @mk sign whole fraction exponent hs hw hz hf he =>
    have hs' : sign ∈ [[], ['+'], ['-']] := by
      simp only [List.mem_cons, List.not_mem_nil, or_false] at hs ⊢
      exact hs.imp_right Or.inr
    have hfraction : Quiet fraction := by
      cases hf with
      | none => exact quiet_nil
      | some hd => exact .cons (by decide) hd.quiet
    have hexponent : Quiet exponent := by
      cases he with
      | none => exact quiet_nil
      | some hm hs hd => exact .cons (hmark _ hm) ((quiet_of_forall (hsign _ hs)).append hd.quiet)
    exact (quiet_of_forall (hsign _ hs')).append (hw.quiet.append (hfraction.append hexponent))

theorem shouts_plain {c : Char} (hq : c ≠ '"') (hb : c ≠ '\\') :
    shouts true (c :: cs) = shouts true cs := by
  rw [shouts, bne_iff_ne.2 hq]
  rintro d ds rfl
  exact absurd rfl hb

theorem Hex.plain {c : Char} (h : Hex c) : c ≠ '"' ∧ c ≠ '\\' := by
  constructor
  · rintro rfl
    exact absurd h (by unfold Hex; decide)
  · rintro rfl
    exact absurd h (by unfold Hex; decide)

theorem Letter.shouts {letter : List Char} (h : Letter letter) :
    shouts true (letter ++ cs) = shouts true cs := by
  cases h with
  | plain hc hq hb => exact shouts_plain hq hb
  | escape hc => rfl
  | @unit a b c d ha hb hc hd =>
    show Standard.shouts true (a :: b :: c :: d :: cs) = _
    rw [shouts_plain ha.plain.1 ha.plain.2, shouts_plain hb.plain.1 hb.plain.2,
      shouts_plain hc.plain.1 hc.plain.2, shouts_plain hd.plain.1 hd.plain.2]

theorem Letters.shouts (h : Letters cs) : shouts true (cs ++ ds) = shouts true ds := by
  induction h with
  | nil => rfl
  | cons hl hs ih => rw [List.append_assoc, hl.shouts, ih]

theorem Text.quiet (h : Text cs) : Quiet cs := by
  intro rest
  cases h with
  | @mk cs hs =>
    show Standard.shouts true (cs ++ ['"'] ++ rest) = _
    rw [List.append_assoc, hs.shouts]
    rfl

end

mutual

theorem Value.quiet {cs : List Char} : Value cs → Quiet cs
  | .null => quiet_of_forall (by simp)
  | .true => quiet_of_forall (by simp)
  | .false => quiet_of_forall (by simp)
  | .number h => h.quiet
  | .text h => h.quiet
  | .noItems hb => .cons (by decide) (hb.quiet.append (quiet_of_forall (by simp)))
  | .array h => .cons (by decide) (h.quiet.append (quiet_of_forall (by simp)))
  | .noFields hb => .cons (by decide) (hb.quiet.append (quiet_of_forall (by simp)))
  | .object h => .cons (by decide) (h.quiet.append (quiet_of_forall (by simp)))

theorem Item.quiet {cs : List Char} : Item cs → Quiet cs
  | .mk hb hv ha => hb.quiet.append (hv.quiet.append ha.quiet)

theorem Items.quiet {cs : List Char} : Items cs → Quiet cs
  | .last h => h.quiet
  | .more h hr => h.quiet.append (.cons (by decide) hr.quiet)

theorem Field.quiet {cs : List Char} : Field cs → Quiet cs
  | .mk hb hk ha hv =>
    hb.quiet.append (hk.quiet.append (ha.quiet.append (.cons (by decide) hv.quiet)))

theorem Fields.quiet {cs : List Char} : Fields cs → Quiet cs
  | .last h => h.quiet
  | .more h hr => h.quiet.append (.cons (by decide) hr.quiet)

end

/-- Quiet just when `p` holds, and else loud. -/
structure QuietIff (p : Prop) (cs : List Char) : Prop where
  quiet : p → Quiet cs
  loud : ¬p → Loud cs

namespace QuietIff

variable {p q : Prop} {cs ds : List Char}

theorem append (hc : QuietIff p cs) (hd : QuietIff q ds) : QuietIff (p ∧ q) (cs ++ ds) where
  quiet h := (hc.quiet h.1).append (hd.quiet h.2)
  loud h := by
    intro rest
    rw [List.append_assoc]
    by_cases hp : p
    · rw [hc.quiet hp]
      exact hd.loud (fun hq => h ⟨hp, hq⟩) rest
    · exact hc.loud hp _

theorem of_quiet (hp : p) (h : Quiet cs) : QuietIff p cs := ⟨fun _ => h, fun hn => absurd hp hn⟩

theorem append_quiet (hc : QuietIff p cs) (hd : Quiet ds) : QuietIff p (cs ++ ds) := by
  rw [← and_true p]
  exact hc.append (of_quiet trivial hd)

theorem quiet_append (hc : Quiet cs) (hd : QuietIff p ds) : QuietIff p (cs ++ ds) := by
  rw [← true_and p]
  exact (of_quiet trivial hc).append hd

end QuietIff

section

variable {indent level : Nat}

/-- The words for doubles that are not finite cannot be missed. -/
theorem quietIff_float {x : Binary64} : QuietIff x.isFinite (JsonStyle.reportFloat.text x) where
  quiet hx := (number_text _ hx).quiet
  loud hx := by
    intro rest
    rcases JsonStyle.reportFloat_text (Bool.eq_false_iff.2 hx) with ⟨-, ht⟩ | ⟨-, ht⟩ | ⟨-, ht⟩ <;>
      · rw [ht]
        rfl

variable {items : List Json} {fields : List (String × Json)} {v : Json}

theorem quiet_newline {style : JsonStyle} : Quiet (style.newline level) := blank_newline.quiet

theorem quiet_text {style : JsonStyle} {k : String} : Quiet (style.text k) := text_written.quiet

theorem quiet_comma : Quiet ",".toList := quiet_of_forall (by simp)

theorem quiet_colon : Quiet ": ".toList := quiet_of_forall (by simp)

theorem quietIff_field {p : Prop} {k : String} {bs cs : List Char} (hb : Quiet bs)
    (hv : QuietIff p cs) :
    QuietIff p (bs ++ (JsonStyle.report indent).text k ++ ": ".toList ++ cs) :=
  hv.quiet_append ((hb.append quiet_text).append quiet_colon)

theorem quietIff_items
    (h : ∀ v ∈ items, QuietIff v.AllFinite ((JsonStyle.report indent).value level v)) :
    QuietIff (∀ v ∈ items, v.AllFinite) ((JsonStyle.report indent).items level items) := by
  induction items with
  | nil => exact .of_quiet (List.forall_mem_nil _) quiet_nil
  | cons v items ih =>
    rw [List.forall_mem_cons] at h ⊢
    exact (h.1.quiet_append (quiet_comma.append quiet_newline)).append (ih h.2)

theorem quietIff_fields
    (h : ∀ f ∈ fields, QuietIff f.2.AllFinite ((JsonStyle.report indent).value level f.2)) :
    QuietIff (∀ f ∈ fields, f.2.AllFinite) ((JsonStyle.report indent).fields level fields) := by
  induction fields with
  | nil => exact .of_quiet (List.forall_mem_nil _) quiet_nil
  | cons f fields ih =>
    rw [List.forall_mem_cons] at h ⊢
    exact (quietIff_field (quiet_comma.append quiet_newline) h.1).append (ih h.2)

theorem quietIff_value (v : Json) :
    QuietIff v.AllFinite ((JsonStyle.report indent).value level v) := by
  induction v using JsonTree.induct generalizing level with
  | null => exact .of_quiet rfl Value.null.quiet
  | bool b =>
    cases b with
    | true => exact .of_quiet rfl Value.true.quiet
    | false => exact .of_quiet rfl Value.false.quiet
  | int n => exact .of_quiet rfl number_intText.quiet
  | float x =>
    rw [JsonTree.allFinite_float_iff]
    exact quietIff_float
  | text s => exact .of_quiet rfl quiet_text
  | array items ih =>
    rw [JsonTree.allFinite_array_iff]
    cases items with
    | nil => exact .of_quiet (List.forall_mem_nil _) (Value.noItems blank_nil).quiet
    | cons v items =>
      rw [List.forall_mem_cons] at ih ⊢
      have hopen : Quiet ((JsonStyle.report indent).newline (level + 1)) := quiet_newline
      have hrest := quietIff_items fun w hw => @ih.2 w hw (level + 1)
      have hitems := ((@ih.1 (level + 1)).quiet_append hopen).append hrest
      have hmark : Quiet ['['] := quiet_of_forall (by simp)
      exact .quiet_append hmark
        ((hitems.append_quiet quiet_newline).append_quiet (quiet_of_forall (by simp)))
  | object fields ih =>
    rw [JsonTree.allFinite_object_iff]
    cases fields with
    | nil => exact .of_quiet (List.forall_mem_nil _) (Value.noFields blank_nil).quiet
    | cons f fields =>
      rw [List.forall_mem_cons] at ih ⊢
      have hopen : Quiet ((JsonStyle.report indent).newline (level + 1)) := quiet_newline
      have hrest := quietIff_fields fun g hg => @ih.2 g hg (level + 1)
      have hfirst : QuietIff f.2.AllFinite ((JsonStyle.report indent).newline (level + 1) ++
          (JsonStyle.report indent).text f.1 ++ ": ".toList ++
          (JsonStyle.report indent).value (level + 1) f.2) :=
        quietIff_field hopen ih.1
      have hfields := hfirst.append hrest
      have hmark : Quiet ['\x7b'] := quiet_of_forall (by simp)
      exact .quiet_append hmark
        ((hfields.append_quiet quiet_newline).append_quiet (quiet_of_forall (by simp)))

/-- A report is a text of the standard just when all doubles in it are finite. -/
theorem accepts_report_iff {v : Json} : Accepts (v.write (.report indent)) ↔ v.AllFinite := by
  rw [Accepts, Json.write, String.toList_ofList]
  constructor
  · intro h
    by_contra hn
    have hquiet := h.quiet []
    rw [(quietIff_value v).loud hn []] at hquiet
    cases hquiet
  · intro h
    have hv : Value ((JsonStyle.report indent).value 0 v) :=
      value_written JsonStyle.readable_report h
    have hitem := Item.mk blank_nil hv blank_nil
    rw [List.append_nil, List.nil_append] at hitem
    exact hitem

end

end Standard

end TradingSignals
