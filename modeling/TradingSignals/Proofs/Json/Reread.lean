import TradingSignals.Proofs.Json.Numeral
import TradingSignals.Proofs.Json.Text
import TradingSignals.Proofs.Json.Value

namespace TradingSignals

namespace JsonReader

theorem skipSpace_append {bs cs : List Char} (h : ∀ c ∈ bs, isSpace c) :
    skipSpace (bs ++ cs) = skipSpace cs := List.dropWhile_append_of_pos h

theorem skipSpace_cons {c : Char} {cs : List Char} (h : isSpace c = false) :
    skipSpace (c :: cs) = c :: cs := by
  rw [skipSpace, List.dropWhile_cons_of_neg]
  rw [h]
  exact Bool.false_ne_true

theorem endsNumber_append {bs cs : List Char} (hb : ∀ c ∈ bs, isSpace c) (hc : EndsNumber cs) :
    EndsNumber (bs ++ cs) := by
  cases bs with
  | nil => exact hc
  | cons b bs =>
    have h := hb b List.mem_cons_self
    simp only [isSpace, Bool.or_eq_true, beq_iff_eq] at h
    rw [List.cons_append, endsNumber_cons]
    rcases h with ((rfl | rfl) | rfl) | rfl <;> decide

theorem value_number {τ : Type} {g : JsonGrammar τ} {fuel room : Nat} {c : Char} {cs : List Char}
    (hc : c = '-' ∨ c.isDigit) : value g (fuel + 1) room (c :: cs) = atom g (c :: cs) := by
  rw [value]
  all_goals
    intros
    rename_i h
    cases h <;> exact absurd hc (by decide)

end JsonReader

/-- What values are read back as: every text is copied, and every finite double is kept. -/
structure JsonTree.Copied {τ : Type} (copy : String → τ) (out : Json → JsonTree τ) : Prop where
  null : out .null = .null
  bool : ∀ b, out (.bool b) = .bool b
  int : ∀ n, out (.int n) = .int n
  float : ∀ x, x.isFinite → out (.float x) = .float x
  text : ∀ s, out (.text s) = .text (copy s)
  array : ∀ items, out (.array items) = .array (items.map out)
  object : ∀ fields, out (.object fields) = .object (fields.map fun f => (copy f.1, out f.2))

/-- A style whose texts a reader takes back: its marks are marks and spaces, and of a double that is
not finite a word is written that the reader knows. -/
structure JsonStyle.Readable {τ : Type} (g : JsonGrammar τ) (copy : String → τ)
    (out : Json → JsonTree τ) (style : JsonStyle) : Prop where
  itemMark : ∃ n, style.itemMark.toList = ',' :: List.replicate n ' '
  keyMark : ∃ n, style.keyMark.toList = ':' :: List.replicate n ' '
  copied : JsonTree.Copied copy out
  text : ∀ s, g.text (LooseText.ofString s) = some (copy s)
  wordStart : ∀ x : Binary64, x.isFinite = false → ∃ c cs, style.float.text x = c :: cs ∧
    JsonReader.isSpace c = false ∧ c ≠ ']'
  word : ∀ (x : Binary64) (fuel room : Nat) (rest : List Char), x.isFinite = false →
    JsonReader.value g (fuel + 1) room (style.float.text x ++ rest) = .ok (out (.float x), rest)

theorem JsonTree.copied_finite : Copied id JsonTree.finite where
  null := rfl
  bool _ := rfl
  int _ := rfl
  float _ hx := if_pos hx
  text _ := rfl
  array _ := finite_array
  object _ := finite_object

theorem JsonTree.copied_mapText {τ : Type} {copy : String → τ} : Copied copy (mapText copy) where
  null := rfl
  bool _ := rfl
  int _ := rfl
  float _ _ := rfl
  text _ := rfl
  array _ := by rw [mapText, mapTextItems_eq]
  object _ := by rw [mapText, mapTextFields_eq]

namespace JsonStyle

variable {x : Binary64} {indent : Nat}

theorem shortFloat_text (hx : x.isFinite = false) :
    shortFloat.text x = ['n', 'u', 'l', 'l'] := by
  have hnull : "null".toList = ['n', 'u', 'l', 'l'] := by decide
  rcases x with _ | (_ | _) | _
  · exact hnull
  · exact hnull
  · exact hnull
  · cases hx

theorem reportFloat_text (hx : x.isFinite = false) :
    x = .nan ∧ reportFloat.text x = ['N', 'a', 'N'] ∨
      x = .infinite false ∧ reportFloat.text x = ['I', 'n', 'f', 'i', 'n', 'i', 't', 'y'] ∨
      x = .infinite true ∧ reportFloat.text x = ['-', 'I', 'n', 'f', 'i', 'n', 'i', 't', 'y'] := by
  rcases x with _ | (_ | _) | _
  · exact Or.inl ⟨rfl, show "NaN".toList = _ by decide⟩
  · exact Or.inr (Or.inl ⟨rfl, show "Infinity".toList = _ by decide⟩)
  · exact Or.inr (Or.inr ⟨rfl, show "-Infinity".toList = _ by decide⟩)
  · cases hx

theorem comma_toList : ",".toList = [','] := by decide

theorem colon_toList : ": ".toList = [':', ' '] := by decide

/-- Documents are read back with null for the doubles that are not finite. -/
theorem readable_document : (document indent).Readable .strict id JsonTree.finite where
  itemMark := ⟨0, comma_toList⟩
  keyMark := ⟨1, colon_toList⟩
  copied := JsonTree.copied_finite
  text s := by
    show LooseText.toString? (s.toList.map .char) = some s
    rw [LooseText.toString?_chars, String.ofList_toList]
  wordStart x hx := ⟨'n', ['u', 'l', 'l'], shortFloat_text hx, rfl, by decide⟩
  word x fuel room rest hx := by
    have ht : (document indent).float.text x = ['n', 'u', 'l', 'l'] := shortFloat_text hx
    rw [ht, JsonTree.finite, if_neg (Bool.eq_false_iff.1 hx)]
    rfl

/-- Reports are read back as they are, by a reader that knows the words for what is no finite
number. -/
theorem readable_report :
    (report indent).Readable .loose LooseText.ofString (JsonTree.mapText LooseText.ofString) where
  itemMark := ⟨0, comma_toList⟩
  keyMark := ⟨1, colon_toList⟩
  copied := JsonTree.copied_mapText
  text _ := rfl
  wordStart x hx := by
    rcases reportFloat_text hx with ⟨-, ht⟩ | ⟨-, ht⟩ | ⟨-, ht⟩ <;>
      exact ⟨_, _, ht, by decide, by decide⟩
  word x fuel room rest hx := by
    have hfloat : (report indent).float = reportFloat := rfl
    rw [hfloat]
    rcases reportFloat_text hx with ⟨rfl, ht⟩ | ⟨rfl, ht⟩ | ⟨rfl, ht⟩ <;>
      · rw [ht]
        rfl

end JsonStyle

namespace JsonReader

variable {τ : Type} {g : JsonGrammar τ} {copy : String → τ} {out : Json → JsonTree τ}
  {style : JsonStyle} {fuel room level : Nat} {rest : List Char}

theorem blank_newline : ∀ c ∈ style.newline level, isSpace c := by
  intro c hc
  unfold JsonStyle.newline at hc
  split at hc
  · cases hc
  · rcases List.mem_cons.1 hc with rfl | hc
    · rfl
    · rw [List.eq_of_mem_replicate hc]
      rfl

theorem blank_replicate {n : Nat} : ∀ c ∈ List.replicate n ' ', isSpace c := by
  intro c hc
  rw [List.eq_of_mem_replicate hc]
  rfl

theorem blank_between {n : Nat} : ∀ c ∈ List.replicate n ' ' ++ style.newline level, isSpace c := by
  intro c hc
  exact (List.mem_append.1 hc).elim (blank_replicate c) (blank_newline c)

theorem number_start {c : Char} (h : c = '-' ∨ c.isDigit) : isSpace c = false ∧ c ≠ ']' := by
  constructor
  · apply Bool.eq_false_iff.2
    intro hc
    simp only [isSpace, Bool.or_eq_true, beq_iff_eq] at hc
    rcases hc with ((rfl | rfl) | rfl) | rfl <;> exact absurd h (by decide)
  · rintro rfl
    exact absurd h (by decide)

/-- A written value starts neither with a space nor with the end of an array. -/
theorem exists_value_cons (hs : style.Readable g copy out) (level : Nat) (v : Json) :
    ∃ c cs, style.value level v = c :: cs ∧ isSpace c = false ∧ c ≠ ']' := by
  cases v with
  | null => exact ⟨'n', _, rfl, by decide⟩
  | bool b => cases b <;> exact ⟨_, _, rfl, by decide⟩
  | int n =>
    obtain ⟨c, cs, he, hc⟩ := exists_intText_cons (v := n)
    exact ⟨c, cs, he, number_start hc⟩
  | float x =>
    by_cases hx : x.isFinite
    · obtain ⟨c, cs, he, hc⟩ := exists_text_cons style.float hx
      exact ⟨c, cs, he, number_start hc⟩
    · exact hs.wordStart x (Bool.eq_false_iff.2 hx)
  | text s => exact ⟨'"', _, rfl, by decide⟩
  | array items => cases items <;> exact ⟨'[', _, rfl, by decide⟩
  | object fields => cases fields <;> exact ⟨'\x7b', _, rfl, by decide⟩

theorem skipSpace_value (hs : style.Readable g copy out) {v : Json} {bs cs : List Char}
    (hb : ∀ c ∈ bs, isSpace c) :
    skipSpace (bs ++ (style.value level v ++ cs)) = style.value level v ++ cs := by
  obtain ⟨c, more, he, hc, -⟩ := exists_value_cons hs level v
  rw [skipSpace_append hb, he, List.cons_append, skipSpace_cons hc]

theorem skipSpace_mark {bs cs : List Char} {c : Char} (hb : ∀ c ∈ bs, isSpace c)
    (hc : isSpace c = false) : skipSpace (bs ++ c :: cs) = c :: cs := by
  rw [skipSpace_append hb, skipSpace_cons hc]

/-- Whether a value is read back wherever it is written, with enough fuel and room for it. -/
def Rereads (g : JsonGrammar τ) (out : Json → JsonTree τ) (style : JsonStyle) (v : Json) : Prop :=
  ∀ ⦃fuel room level rest⦄, 2 * (style.value level v).length ≤ fuel → v.FitsIn room →
    EndsNumber rest →
    value g fuel room (style.value level v ++ rest) = .ok (out v, rest)

theorem items_written (hs : style.Readable g copy out) {items : List Json} {v : Json}
    {bs : List Char} (hv : ∀ w ∈ v :: items, Rereads g out style w)
    (hf : 2 * (style.value level v ++ style.items level items).length < fuel)
    (hfit : ∀ w ∈ v :: items, w.FitsIn room) (hb : ∀ c ∈ bs, isSpace c) :
    JsonReader.items g fuel room
        (style.value level v ++ (style.items level items ++ (bs ++ ']' :: rest))) =
      .ok ((v :: items).map out, rest) := by
  induction items generalizing v fuel with
  | nil =>
    obtain ⟨fuel, rfl⟩ : ∃ n, fuel = n + 1 := ⟨fuel - 1, by omega⟩
    have hv := hv v List.mem_cons_self
    have hfit := hfit v List.mem_cons_self
    have hends : EndsNumber (bs ++ ']' :: rest) :=
      endsNumber_append hb (endsNumber_cons.2 (by decide))
    rw [JsonStyle.items, List.append_nil] at hf
    rw [JsonStyle.items, List.nil_append, JsonReader.items, hv (by omega) hfit hends]
    simp only [skipSpace_mark hb (show isSpace ']' = false from rfl)]
    rfl
  | cons w items ih =>
    obtain ⟨fuel, rfl⟩ : ∃ n, fuel = n + 1 := ⟨fuel - 1, by omega⟩
    obtain ⟨k, hk⟩ := hs.itemMark
    have hv0 := hv v List.mem_cons_self
    have hfit0 := hfit v List.mem_cons_self
    have htext : style.items level (w :: items) ++ (bs ++ ']' :: rest) =
        ',' :: ((List.replicate k ' ' ++ style.newline level) ++
          (style.value level w ++ (style.items level items ++ (bs ++ ']' :: rest)))) := by
      simp [JsonStyle.items, hk]
    have hends : EndsNumber (style.items level (w :: items) ++ (bs ++ ']' :: rest)) := by
      rw [htext, endsNumber_cons]
      decide
    have hlen : (style.items level (w :: items)).length = 1 + k + (style.newline level).length +
        (style.value level w ++ style.items level items).length := by
      simp [JsonStyle.items, hk]
      omega
    rw [List.length_append, hlen] at hf
    have hf' : 2 * (style.value level w ++ style.items level items).length < fuel := by omega
    have ih := ih (fun u hu => hv u (List.mem_cons_of_mem v hu)) hf'
      fun u hu => hfit u (List.mem_cons_of_mem v hu)
    rw [JsonReader.items, hv0 (by omega) hfit0 hends, htext]
    simp only [skipSpace_cons (show isSpace ',' = false from rfl),
      skipSpace_value hs blank_between, ih]
    rfl

section

variable {k : String} {v : Json} {tail : List Char}

theorem fields_last (hs : style.Readable g copy out)
    (hv : value g fuel room (style.value level v ++ tail) = .ok (out v, tail))
    (ht : skipSpace tail = '\x7d' :: rest) :
    JsonReader.fields g (fuel + 1) room
        (style.text k ++ (style.keyMark.toList ++ (style.value level v ++ tail))) =
      .ok ([(copy k, out v)], rest) := by
  obtain ⟨j, hj⟩ := hs.keyMark
  rw [JsonStyle.text, hj, List.cons_append, List.cons_append, List.append_assoc,
    List.singleton_append, JsonReader.fields, text_written hs.text]
  simp only [skipSpace_cons (show isSpace ':' = false from rfl),
    skipSpace_value hs blank_replicate, hv, ht]

theorem fields_more (hs : style.Readable g copy out) {more : List Char} {fs : List (τ × JsonTree τ)}
    (hv : value g fuel room (style.value level v ++ tail) = .ok (out v, tail))
    (ht : skipSpace tail = ',' :: more)
    (hf : JsonReader.fields g fuel room (skipSpace more) = .ok (fs, rest)) :
    JsonReader.fields g (fuel + 1) room
        (style.text k ++ (style.keyMark.toList ++ (style.value level v ++ tail))) =
      .ok ((copy k, out v) :: fs, rest) := by
  obtain ⟨j, hj⟩ := hs.keyMark
  rw [JsonStyle.text, hj, List.cons_append, List.cons_append, List.append_assoc,
    List.singleton_append, JsonReader.fields, text_written hs.text]
  simp only [skipSpace_cons (show isSpace ':' = false from rfl),
    skipSpace_value hs blank_replicate, hv, ht, hf]

end

theorem fields_written (hs : style.Readable g copy out) {fields : List (String × Json)} {k : String}
    {v : Json} {bs : List Char} (hv : ∀ f ∈ (k, v) :: fields, Rereads g out style f.2)
    (hf : 2 * (style.value level v ++ style.fields level fields).length < fuel)
    (hfit : ∀ f ∈ (k, v) :: fields, f.2.FitsIn room) (hb : ∀ c ∈ bs, isSpace c) :
    JsonReader.fields g fuel room
        (style.text k ++ (style.keyMark.toList ++ (style.value level v ++
          (style.fields level fields ++ (bs ++ '\x7d' :: rest))))) =
      .ok (((k, v) :: fields).map fun f => (copy f.1, out f.2), rest) := by
  induction fields generalizing k v fuel with
  | nil =>
    obtain ⟨fuel, rfl⟩ : ∃ n, fuel = n + 1 := ⟨fuel - 1, by omega⟩
    have hv : Rereads g out style v := hv (k, v) List.mem_cons_self
    have hfit : v.FitsIn room := hfit (k, v) List.mem_cons_self
    have hends : EndsNumber (bs ++ '\x7d' :: rest) :=
      endsNumber_append hb (endsNumber_cons.2 (by decide))
    rw [List.length_append] at hf
    rw [JsonStyle.fields, List.nil_append]
    exact fields_last hs (hv (by omega) hfit hends) (skipSpace_mark hb rfl)
  | cons f fields ih =>
    obtain ⟨k', w⟩ := f
    obtain ⟨fuel, rfl⟩ : ∃ n, fuel = n + 1 := ⟨fuel - 1, by omega⟩
    obtain ⟨i, hi⟩ := hs.itemMark
    have hv0 : Rereads g out style v := hv (k, v) List.mem_cons_self
    have hfit0 : v.FitsIn room := hfit (k, v) List.mem_cons_self
    have htext : style.fields level ((k', w) :: fields) ++ (bs ++ '\x7d' :: rest) =
        ',' :: ((List.replicate i ' ' ++ style.newline level) ++
          (style.text k' ++ (style.keyMark.toList ++ (style.value level w ++
            (style.fields level fields ++ (bs ++ '\x7d' :: rest)))))) := by
      simp [JsonStyle.fields, hi]
    have hends : EndsNumber (style.fields level ((k', w) :: fields) ++ (bs ++ '\x7d' :: rest)) := by
      rw [htext, endsNumber_cons]
      decide
    have hlen : (style.fields level ((k', w) :: fields)).length = 1 + i +
        (style.newline level).length + (style.text k').length + style.keyMark.toList.length +
          (style.value level w ++ style.fields level fields).length := by
      simp [JsonStyle.fields, hi]
      omega
    rw [List.length_append, hlen] at hf
    have hf' : 2 * (style.value level w ++ style.fields level fields).length < fuel := by omega
    have hmore := ih (k := k') (fun g hg => hv g (List.mem_cons_of_mem _ hg)) hf'
      fun g hg => hfit g (List.mem_cons_of_mem _ hg)
    apply fields_more hs (hv0 (by omega) hfit0 hends) (by rw [htext, skipSpace_cons rfl])
    rw [skipSpace_append blank_between, JsonStyle.text, List.cons_append, skipSpace_cons rfl]
    exact hmore

/-- With fuel there is a step to take. -/
theorem exists_fuel (hs : style.Readable g copy out) {v : Json}
    (hf : 2 * (style.value level v).length ≤ fuel) : ∃ n, fuel = n + 1 := by
  obtain ⟨c, cs, he, -⟩ := exists_value_cons hs level v
  rw [he, List.length_cons] at hf
  exact ⟨fuel - 1, by omega⟩

theorem array_written (hs : style.Readable g copy out) {items : List Json}
    (ih : ∀ v ∈ items, Rereads g out style v) : Rereads g out style (.array items) := by
  intro fuel room level rest hf hfit hr
  obtain ⟨fuel, rfl⟩ := exists_fuel hs hf
  obtain ⟨room, rfl⟩ := hfit.pos_of_array
  rw [JsonTree.fitsIn_array_iff] at hfit
  cases items with
  | nil =>
    rw [hs.copied.array]
    rfl
  | cons v items =>
    obtain ⟨c, cs, he, -, hc⟩ := exists_value_cons hs (level + 1) v
    have htext : style.value level (.array (v :: items)) ++ rest =
        '[' :: (style.newline (level + 1) ++ (style.value (level + 1) v ++
          (style.items (level + 1) items ++ (style.newline level ++ ']' :: rest)))) := by
      simp [JsonStyle.value]
    have hlen : (style.value level (.array (v :: items))).length =
        2 + (style.newline (level + 1)).length + (style.newline level).length +
          (style.value (level + 1) v ++ style.items (level + 1) items).length := by
      simp [JsonStyle.value]
      omega
    have hitems : JsonReader.items g fuel room (style.value (level + 1) v ++
        (style.items (level + 1) items ++ (style.newline level ++ ']' :: rest))) =
          .ok ((v :: items).map out, rest) :=
      items_written hs ih (by omega) hfit blank_newline
    rw [htext, value, skipSpace_value hs blank_newline, hs.copied.array]
    split
    · next h =>
      rw [he] at h
      cases h
      exact absurd rfl hc
    · rw [hitems]

theorem object_written (hs : style.Readable g copy out) {fields : List (String × Json)}
    (ih : ∀ f ∈ fields, Rereads g out style f.2) : Rereads g out style (.object fields) := by
  intro fuel room level rest hf hfit hr
  obtain ⟨fuel, rfl⟩ := exists_fuel hs hf
  obtain ⟨room, rfl⟩ := hfit.pos_of_object
  rw [JsonTree.fitsIn_object_iff] at hfit
  cases fields with
  | nil =>
    rw [hs.copied.object]
    rfl
  | cons f fields =>
    obtain ⟨k, v⟩ := f
    have htext : style.value level (.object ((k, v) :: fields)) ++ rest =
        '\x7b' :: (style.newline (level + 1) ++ (style.text k ++ (style.keyMark.toList ++
          (style.value (level + 1) v ++ (style.fields (level + 1) fields ++
            (style.newline level ++ '\x7d' :: rest)))))) := by
      simp [JsonStyle.value]
    have hlen : (style.value level (.object ((k, v) :: fields))).length =
        2 + (style.newline (level + 1)).length + (style.newline level).length +
          (style.text k).length + style.keyMark.toList.length +
          (style.value (level + 1) v ++ style.fields (level + 1) fields).length := by
      simp [JsonStyle.value]
      omega
    have hfields : JsonReader.fields g fuel room (style.text k ++ (style.keyMark.toList ++
        (style.value (level + 1) v ++ (style.fields (level + 1) fields ++
          (style.newline level ++ '\x7d' :: rest))))) =
          .ok (((k, v) :: fields).map fun f => (copy f.1, out f.2), rest) :=
      fields_written hs ih (by omega) hfit blank_newline
    rw [htext, value, skipSpace_append blank_newline, hs.copied.object, JsonStyle.text,
      List.cons_append, skipSpace_cons rfl]
    rw [JsonStyle.text, List.cons_append] at hfields
    split
    · next h => cases h
    · rw [hfields]

theorem value_written (hs : style.Readable g copy out) (v : Json) : Rereads g out style v := by
  induction v using JsonTree.induct with
  | null =>
    intro fuel room level rest hf hfit hr
    obtain ⟨fuel, rfl⟩ := exists_fuel hs hf
    rw [hs.copied.null]
    rfl
  | bool b =>
    intro fuel room level rest hf hfit hr
    obtain ⟨fuel, rfl⟩ := exists_fuel hs hf
    rw [hs.copied.bool]
    cases b <;> rfl
  | int n =>
    intro fuel room level rest hf hfit hr
    obtain ⟨fuel, rfl⟩ := exists_fuel hs hf
    obtain ⟨c, cs, he, hc⟩ := exists_intText_cons (v := n)
    have ha := atom_intText (g := g) (hfit.ints n (by simp [JsonTree.ints])) hr
    rw [JsonStyle.value, he, List.cons_append, value_number hc, ← List.cons_append, ← he, ha,
      hs.copied.int]
  | float x =>
    intro fuel room level rest hf hfit hr
    obtain ⟨fuel, rfl⟩ := exists_fuel hs hf
    rw [JsonStyle.value]
    by_cases hx : x.isFinite
    · obtain ⟨c, cs, he, hc⟩ := exists_text_cons style.float hx
      have ha := atom_float (g := g) style.float hx hr
      rw [he, List.cons_append, value_number hc, ← List.cons_append, ← he, ha,
        hs.copied.float x hx]
    · exact hs.word x fuel room rest (Bool.eq_false_iff.2 hx)
  | text s =>
    intro fuel room level rest hf hfit hr
    obtain ⟨fuel, rfl⟩ := exists_fuel hs hf
    rw [JsonStyle.value, JsonStyle.text, List.cons_append, List.append_assoc,
      List.singleton_append, value, text_written hs.text, hs.copied.text]
  | array items ih => exact array_written hs ih
  | object fields ih => exact object_written hs ih

end JsonReader

/-- A written value is read back, unless it is too deep or holds too long a number. -/
theorem readJson_write {τ : Type} {g : JsonGrammar τ} {copy : String → τ} {out : Json → JsonTree τ}
    {style : JsonStyle} (hs : style.Readable g copy out) {v : Json} (hfit : v.FitsIn g.nesting) :
    readJson g (v.write style) = .ok (out v) := by
  obtain ⟨c, cs, he, hc, -⟩ := JsonReader.exists_value_cons hs 0 v
  have hv := JsonReader.value_written hs v
    (show 2 * (style.value 0 v).length ≤ 2 * (style.value 0 v).length + 2 by omega) hfit
    endsNumber_nil
  rw [List.append_nil] at hv
  have hskip : JsonReader.skipSpace (style.value 0 v) = style.value 0 v := by
    rw [he, JsonReader.skipSpace_cons hc]
  unfold readJson Json.write
  simp only [String.toList_ofList, hskip, hv]
  rfl

end TradingSignals
