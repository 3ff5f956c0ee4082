import TradingSignals.Proofs.Json.Loose
import TradingSignals.Proofs.Json.Standard

namespace TradingSignals

-- The grammar of the texts that are taken, with the value that each of them spells.
namespace Spelled

open Standard (Blank Digits blank_nil blank_of_isSpace)

/-- The digits before a point; a zero stands alone. -/
structure Whole (ds : List Char) : Prop where
  digits : Digits ds
  zero_alone : ds.head? = some '0' → ds = ['0']

inductive Sign : List Char → Bool → Prop
  | none : Sign [] false
  | plus : Sign ['+'] false
  | minus : Sign ['-'] true

inductive Exponent : List Char → Int → Prop
  | mk {mark : Char} {sign ds : List Char} {negative : Bool} (hm : mark ∈ ['e', 'E'])
    (hs : Sign sign negative) (hd : Digits ds) :
    Exponent (mark :: (sign ++ ds)) (if negative then -digitsValue ds else digitsValue ds)

theorem Exponent.length_pos {cs : List Char} {e : Int} (h : Exponent cs e) : 0 < cs.length := by
  cases h
  exact Nat.zero_lt_succ _

/-- A number behind its sign: a whole one, or a double as soon as it has a fraction or an
exponent. -/
inductive Magnitude (negative : Bool) : List Char → Json → Prop
  | whole {ds : List Char} (hw : Whole ds) :
    Magnitude negative ds (.int (if negative then -digitsValue ds else digitsValue ds))
  | fraction {ds fs : List Char} (hw : Whole ds) (hf : Digits fs) :
    Magnitude negative (ds ++ '.' :: fs)
      (.float (.ofDecimal negative (digitsValue (ds ++ fs)) (-fs.length)))
  | exponent {ds cs : List Char} {e : Int} (hw : Whole ds) (he : Exponent cs e) :
    Magnitude negative (ds ++ cs) (.float (.ofDecimal negative (digitsValue ds) e))
  | both {ds fs cs : List Char} {e : Int} (hw : Whole ds) (hf : Digits fs) (he : Exponent cs e) :
    Magnitude negative (ds ++ '.' :: (fs ++ cs))
      (.float (.ofDecimal negative (digitsValue (ds ++ fs)) (e - fs.length)))

inductive Number : List Char → Json → Prop
  | plain {cs : List Char} {v : Json} (h : Magnitude false cs v) : Number cs v
  | minus {cs : List Char} {v : Json} (h : Magnitude true cs v) : Number ('-' :: cs) v

/-- What is written for a code point: a character as it stands, or an escape. -/
inductive Letter : List Char → CodePoint → Prop
  | plain {c : Char} (hc : ' ' ≤ c) (hq : c ≠ '"') (hb : c ≠ '\\') : Letter [c] (.char c)
  | escape {e c : Char} (h : (e, c) ∈ [('"', '"'), ('\\', '\\'), ('/', '/'), ('b', '\x08'),
      ('f', '\x0c'), ('n', '\n'), ('r', '\r'), ('t', '\t')]) : Letter ['\\', e] (.char c)
  | unit {a b c d : Char} {n : Nat} (h : JsonReader.hex4? a b c d = some n) :
    Letter ['\\', 'u', a, b, c, d] (.ofUnit n)

inductive Letters : List Char → LooseText → Prop
  | nil : Letters [] []
  | cons {letter cs : List Char} {c : CodePoint} {t : LooseText} (hl : Letter letter c)
    (hs : Letters cs t) : Letters (letter ++ cs) (c :: t)

/-- Two escapes may spell one character, and none is left without its other half. -/
inductive Text : List Char → String → Prop
  | mk {cs : List Char} {t : LooseText} {s : String} (hs : Letters cs t)
    (ht : t.pairUp = LooseText.ofString s) : Text ('"' :: (cs ++ ['"'])) s

mutual

inductive Value : List Char → Json → Prop
  | null : Value ['n', 'u', 'l', 'l'] .null
  | true : Value ['t', 'r', 'u', 'e'] (.bool true)
  | false : Value ['f', 'a', 'l', 's', 'e'] (.bool false)
  | nan : Value ['N', 'a', 'N'] (.float .nan)
  | infinity : Value ['I', 'n', 'f', 'i', 'n', 'i', 't', 'y'] (.float (.infinite false))
  | minusInfinity :
    Value ['-', 'I', 'n', 'f', 'i', 'n', 'i', 't', 'y'] (.float (.infinite true))
  | number {cs : List Char} {v : Json} (h : Number cs v) : Value cs v
  | text {cs : List Char} {s : String} (h : Text cs s) : Value cs (.text s)
  | noItems {bs : List Char} (hb : Blank bs) : Value ('[' :: (bs ++ [']'])) (.array [])
  | array {cs : List Char} {vs : List Json} (h : Items cs vs) :
    Value ('[' :: (cs ++ [']'])) (.array vs)
  | noFields {bs : List Char} (hb : Blank bs) :
    Value ('\x7b' :: (bs ++ ['\x7d'])) (.object [])
  | object {cs : List Char} {fs : List (String × Json)} (h : Fields cs fs) :
    Value ('\x7b' :: (cs ++ ['\x7d'])) (.object fs)

/-- A value with blanks around it. -/
inductive Item : List Char → Json → Prop
  | mk {bs cs as : List Char} {v : Json} (hb : Blank bs) (hv : Value cs v) (ha : Blank as) :
    Item (bs ++ (cs ++ as)) v

inductive Items : List Char → List Json → Prop
  | last {cs : List Char} {v : Json} (h : Item cs v) : Items cs [v]
  | more {cs rest : List Char} {v : Json} {vs : List Json} (h : Item cs v)
    (hr : Items rest vs) : Items (cs ++ ',' :: rest) (v :: vs)

inductive Field : List Char → String → Json → Prop
  | mk {bs key as cs : List Char} {k : String} {v : Json} (hb : Blank bs) (hk : Text key k)
    (ha : Blank as) (hv : Item cs v) : Field (bs ++ (key ++ (as ++ ':' :: cs))) k v

inductive Fields : List Char → List (String × Json) → Prop
  | last {cs : List Char} {k : String} {v : Json} (h : Field cs k v) : Fields cs [(k, v)]
  | more {cs rest : List Char} {k : String} {v : Json} {fs : List (String × Json)}
    (h : Field cs k v) (hr : Fields rest fs) : Fields (cs ++ ',' :: rest) ((k, v) :: fs)

end

theorem exists_blank (cs : List Char) : ∃ bs, Blank bs ∧ cs = bs ++ JsonReader.skipSpace cs :=
  ⟨cs.takeWhile JsonReader.isSpace, blank_of_isSpace (List.all_eq_true.1 List.all_takeWhile),
    List.takeWhile_append_dropWhile.symm⟩

theorem exists_blank_of_skipSpace {cs rest : List Char} (h : JsonReader.skipSpace cs = rest) :
    ∃ bs, Blank bs ∧ cs = bs ++ rest := by
  obtain ⟨bs, hb, he⟩ := exists_blank cs
  rw [h] at he
  exact ⟨bs, hb, he⟩

theorem digits_takeWhile {cs : List Char} (h : startsWithDigit cs) :
    Digits (cs.takeWhile Char.isDigit) := by
  refine ⟨?_, List.all_eq_true.1 List.all_takeWhile⟩
  cases cs with
  | nil => cases h
  | cons c cs =>
    have hc : c.isDigit := h
    rw [List.takeWhile_cons_of_pos hc]
    exact List.cons_ne_nil _ _

theorem blank_append {bs bs' : List Char} (hb : Blank bs) (hb' : Blank bs') : Blank (bs ++ bs') :=
  fun c hc => (List.mem_append.1 hc).elim (hb c) (hb' c)

theorem Item.blank_append {bs cs : List Char} {v : Json} (h : Item cs v) (hb : Blank bs) :
    Item (bs ++ cs) v := by
  cases h with
  | mk hb' hv ha =>
    rw [← List.append_assoc]
    exact .mk (Spelled.blank_append hb hb') hv ha

theorem Items.blank_append {bs cs : List Char} {vs : List Json} (h : Items cs vs)
    (hb : Blank bs) : Items (bs ++ cs) vs := by
  cases h with
  | last h => exact .last (h.blank_append hb)
  | more h hr =>
    rw [← List.append_assoc]
    exact .more (h.blank_append hb) hr

theorem Field.blank_append {bs cs : List Char} {k : String} {v : Json} (h : Field cs k v)
    (hb : Blank bs) : Field (bs ++ cs) k v := by
  cases h with
  | mk hb' hk ha hv =>
    rw [← List.append_assoc]
    exact .mk (Spelled.blank_append hb hb') hk ha hv

theorem Fields.blank_append {bs cs : List Char} {fs : List (String × Json)} (h : Fields cs fs)
    (hb : Blank bs) : Fields (bs ++ cs) fs := by
  cases h with
  | last h => exact .last (h.blank_append hb)
  | more h hr =>
    rw [← List.append_assoc]
    exact .more (h.blank_append hb) hr

end Spelled

namespace JsonReader

open Standard (Blank Digits blank_nil)
open Spelled (Whole Sign Exponent Magnitude Number Letter Letters Text Value Item Items Fields
  exists_blank exists_blank_of_skipSpace digits_takeWhile)

variable {negative : Bool} {cs rest : List Char} {v : Json}

theorem whole_wholePart (h : wholePart cs ≠ []) : Whole (wholePart cs) := by
  refine ⟨⟨h, fun c hc => isDigit_of_mem_wholePart hc⟩, ?_⟩
  unfold wholePart
  split
  · exact fun _ => rfl
  · next hz =>
    intro h0
    obtain ⟨ds, hd⟩ := List.head?_eq_some_iff.1 h0
    exact absurd hd (hz ds)

/-- Nothing is taken, or a point and the digits behind it. -/
theorem guardedFraction_spelled {ds after : List Char}
    (h : (if startsWithDigit (cs.drop 1) then takeFraction cs else ([], cs)) = (ds, after)) :
    (ds = [] ∧ after = cs) ∨ Digits ds ∧ cs = '.' :: (ds ++ after) := by
  split at h
  · next hd =>
    unfold takeFraction at h
    split at h
    · cases h
      exact Or.inr ⟨digits_takeWhile hd, congrArg _ List.takeWhile_append_dropWhile.symm⟩
    · cases h
      exact Or.inl ⟨rfl, rfl⟩
  · cases h
    exact Or.inl ⟨rfl, rfl⟩

theorem takeSign_spelled (cs : List Char) :
    ∃ sign, Sign sign (takeSign cs).1 ∧ cs = sign ++ (takeSign cs).2 := by
  unfold takeSign
  split
  · exact ⟨_, .minus, rfl⟩
  · exact ⟨_, .plus, rfl⟩
  · exact ⟨_, .none, rfl⟩

/-- Nothing is taken, or an exponent. -/
theorem exponent_spelled {e : Int} {after : List Char}
    (h : (takeExponent cs).getD (0, cs) = (e, after)) :
    (e = 0 ∧ after = cs) ∨ ∃ taken, Exponent taken e ∧ cs = taken ++ after := by
  unfold takeExponent at h
  split at h
  · cases h
    exact Or.inl ⟨rfl, rfl⟩
  · next c cs =>
    obtain ⟨sign, hs, happend⟩ := takeSign_spelled cs
    split at h
    · next hc =>
      dsimp only at h
      split at h
      · next hd =>
        cases h
        have hm : c ∈ ['e', 'E'] := by simpa using hc
        have hrest : (takeSign cs).2.takeWhile Char.isDigit ++
            (takeSign cs).2.dropWhile Char.isDigit = (takeSign cs).2 :=
          List.takeWhile_append_dropWhile
        refine Or.inr ⟨_, .mk hm hs (digits_takeWhile hd), ?_⟩
        rw [List.cons_append, List.append_assoc, hrest, ← happend]
      · cases h
        exact Or.inl ⟨rfl, rfl⟩
    · cases h
      exact Or.inl ⟨rfl, rfl⟩

theorem magnitude_spelled (h : magnitude .strict negative cs = .ok (v, rest)) :
    ∃ taken, cs = taken ++ rest ∧ Magnitude negative taken v := by
  unfold magnitude at h
  dsimp only at h
  have happend := append_wholePart cs
  have hwhole := @whole_wholePart cs
  generalize wholePart cs = ds at h happend hwhole
  generalize cs.drop ds.length = behind at h happend
  subst happend
  generalize hf : (if startsWithDigit (behind.drop 1) then takeFraction behind
    else ([], behind)) = fraction at h
  obtain ⟨fs, afterFraction⟩ := fraction
  generalize hx : (takeExponent afterFraction).getD (0, afterFraction) = exponent at h
  obtain ⟨e, after⟩ := exponent
  dsimp only at h
  by_cases hne : ds.isEmpty
  · rw [if_pos hne] at h
    cases h
  rw [if_neg hne] at h
  have hw : Whole ds := hwhole (by simpa using hne)
  split at h
  · cases h
  -- what is read is a whole number just when neither a fraction nor an exponent was taken
  rcases guardedFraction_spelled hf with ⟨rfl, rfl⟩ | ⟨hd, rfl⟩
  · rcases exponent_spelled hx with ⟨rfl, rfl⟩ | ⟨taken, he, rfl⟩
    · rw [if_pos rfl] at h
      split at h
      · cases h
      · cases h
        exact ⟨ds, rfl, .whole hw⟩
    · have hlength := he.length_pos
      rw [if_neg (by rw [List.length_append]; omega)] at h
      cases h
      refine ⟨ds ++ taken, (List.append_assoc ..).symm, ?_⟩
      rw [List.append_nil, List.length_nil, Nat.cast_zero, Int.sub_zero]
      exact .exponent hw he
  · rcases exponent_spelled hx with ⟨rfl, rfl⟩ | ⟨taken, he, rfl⟩
    · rw [if_neg (by simp only [List.length_cons, List.length_append]; omega)] at h
      cases h
      refine ⟨ds ++ '.' :: fs, by simp, ?_⟩
      rw [Int.zero_sub]
      exact .fraction hw hd
    · rw [if_neg (by simp only [List.length_cons, List.length_append]; omega)] at h
      cases h
      exact ⟨ds ++ '.' :: (fs ++ taken), by simp, .both hw hd he⟩

theorem atom_spelled (h : atom .strict cs = .ok (v, rest)) :
    ∃ taken, cs = taken ++ rest ∧ Value taken v := by
  unfold atom at h
  split at h
  · cases h
    exact ⟨_, rfl, .null⟩
  · cases h
    exact ⟨_, rfl, .true⟩
  · cases h
    exact ⟨_, rfl, .false⟩
  · cases h
    exact ⟨_, rfl, .nan⟩
  · cases h
    exact ⟨_, rfl, .infinity⟩
  · cases h
    exact ⟨_, rfl, .minusInfinity⟩
  · obtain ⟨taken, rfl, hm⟩ := magnitude_spelled h
    exact ⟨'-' :: taken, rfl, .number (.minus hm)⟩
  · obtain ⟨taken, rfl, hm⟩ := magnitude_spelled h
    exact ⟨taken, rfl, .number (.plain hm)⟩

theorem escape_spelled {e c : Char} (h : escaped? e = some c) : Letter ['\\', e] (.char c) := by
  unfold escaped? at h
  split at h <;> cases h <;> exact .escape (by decide)

theorem textBody_spelled {done t : LooseText} (h : textBody done cs = some (t, rest)) :
    ∃ taken t', cs = taken ++ '"' :: rest ∧ Letters taken t' ∧ t = done.reverse ++ t' := by
  fun_induction textBody done cs with
  | case1 => cases h
  | case2 done cs =>
    cases h
    exact ⟨[], [], rfl, .nil, (List.append_nil _).symm⟩
  | case3 done a b c d cs n hn ih =>
    obtain ⟨taken, t', rfl, hs, rfl⟩ := ih h
    exact ⟨_, _, rfl, .cons (.unit hn) hs, by simp⟩
  | case4 => cases h
  | case5 done e cs _ c hc ih =>
    obtain ⟨taken, t', rfl, hs, rfl⟩ := ih h
    exact ⟨_, _, rfl, .cons (escape_spelled hc) hs, by simp⟩
  | case6 => cases h
  | case7 => cases h
  | case8 done c cs hq hu hb hc ih =>
    obtain ⟨taken, t', rfl, hs, rfl⟩ := ih h
    have hne : c ≠ '\\' := by
      -- a backslash would have something behind it, if only the closing quote
      intro hbackslash
      obtain ⟨e, more, he⟩ := List.exists_cons_of_ne_nil
        (List.append_ne_nil_of_right_ne_nil taken (List.cons_ne_nil '"' rest))
      exact hb e more hbackslash he
    exact ⟨_, _, rfl, .cons (.plain (Char.not_lt.1 hc) hq hne) hs, by simp⟩

theorem text_spelled {s : String} (h : text .strict cs = .ok (s, rest)) :
    ∃ taken, cs = taken ++ rest ∧ Text ('"' :: taken) s := by
  unfold text at h
  split at h
  · next t rest' ht =>
    split at h
    · next hs =>
      cases h
      obtain ⟨taken, t', rfl, hl, rfl⟩ := textBody_spelled ht
      exact ⟨taken ++ ['"'], by simp, .mk hl (LooseText.eq_ofString hs)⟩
    · cases h
  · cases h

/-- With so much fuel nothing is read but what is spelled. -/
structure SpelledWith (fuel : Nat) : Prop where
  value : ∀ {room cs v rest}, value .strict fuel room cs = .ok (v, rest) →
    ∃ taken, cs = taken ++ rest ∧ Value taken v
  items : ∀ {room cs vs rest}, items .strict fuel room cs = .ok (vs, rest) →
    ∃ taken, cs = taken ++ ']' :: rest ∧ Items taken vs
  fields : ∀ {room cs fs rest}, fields .strict fuel room cs = .ok (fs, rest) →
    ∃ taken, cs = taken ++ '\x7d' :: rest ∧ Fields taken fs

variable {fuel room : Nat}

theorem value_spelled (hs : SpelledWith fuel)
    (h : value .strict (fuel + 1) room cs = .ok (v, rest)) :
    ∃ taken, cs = taken ++ rest ∧ Value taken v := by
  rw [value_eq_ok_iff] at h
  rcases h with ⟨more, s, rfl, ht, rfl⟩ | ⟨n, more, -, rfl, h⟩ |
    ⟨n, more, -, rfl, h⟩ | ⟨-, h⟩
  · obtain ⟨taken, rfl, hspelled⟩ := text_spelled ht
    exact ⟨'"' :: taken, rfl, .text hspelled⟩
  · rcases h with ⟨hend, rfl⟩ | ⟨vs, -, hi, rfl⟩
    · obtain ⟨bs, hb, rfl⟩ := exists_blank_of_skipSpace hend
      exact ⟨_, by simp, .noItems hb⟩
    · obtain ⟨taken, htaken, hitems⟩ := hs.items hi
      obtain ⟨bs, hb, rfl⟩ := exists_blank_of_skipSpace htaken
      exact ⟨_, by simp, .array (hitems.blank_append hb)⟩
  · rcases h with ⟨hend, rfl⟩ | ⟨fs, -, hf, rfl⟩
    · obtain ⟨bs, hb, rfl⟩ := exists_blank_of_skipSpace hend
      exact ⟨_, by simp, .noFields hb⟩
    · obtain ⟨taken, htaken, hfields⟩ := hs.fields hf
      obtain ⟨bs, hb, rfl⟩ := exists_blank_of_skipSpace htaken
      exact ⟨_, by simp, .object (hfields.blank_append hb)⟩
  · exact atom_spelled h

theorem items_spelled {vs : List Json} (hs : SpelledWith fuel)
    (h : items .strict (fuel + 1) room cs = .ok (vs, rest)) :
    ∃ taken, cs = taken ++ ']' :: rest ∧ Items taken vs := by
  rw [items_eq_ok_iff] at h
  obtain ⟨v, after, hv, h⟩ := h
  obtain ⟨first, rfl, hfirst⟩ := hs.value hv
  rcases h with ⟨hend, rfl⟩ | ⟨more, ws, hmore, hi, rfl⟩
  · obtain ⟨bs, hb, rfl⟩ := exists_blank_of_skipSpace hend
    exact ⟨_, by simp, .last (.mk blank_nil hfirst hb)⟩
  · obtain ⟨bs, hb, rfl⟩ := exists_blank_of_skipSpace hmore
    obtain ⟨taken, htaken, hitems⟩ := hs.items hi
    obtain ⟨bs', hb', rfl⟩ := exists_blank_of_skipSpace htaken
    exact ⟨_, by simp, .more (.mk blank_nil hfirst hb) (hitems.blank_append hb')⟩

theorem fields_spelled {fs : List (String × Json)} (hs : SpelledWith fuel)
    (h : fields .strict (fuel + 1) room cs = .ok (fs, rest)) :
    ∃ taken, cs = taken ++ '\x7d' :: rest ∧ Fields taken fs := by
  rw [fields_eq_ok_iff] at h
  obtain ⟨quoted, k, behind, colon, v, after, rfl, hk, hcolon, hv, h⟩ := h
  obtain ⟨key, rfl, hkey⟩ := text_spelled hk
  obtain ⟨bs, hb, rfl⟩ := exists_blank_of_skipSpace hcolon
  obtain ⟨first, hfirst, hvalue⟩ := hs.value hv
  obtain ⟨bs', hb', rfl⟩ := exists_blank_of_skipSpace hfirst
  rcases h with ⟨hend, rfl⟩ | ⟨more, gs, hmore, hi, rfl⟩
  · obtain ⟨as, ha, rfl⟩ := exists_blank_of_skipSpace hend
    have hfield := Spelled.Field.mk blank_nil hkey hb (.mk hb' hvalue ha)
    exact ⟨_, by simp, .last hfield⟩
  · obtain ⟨as, ha, rfl⟩ := exists_blank_of_skipSpace hmore
    obtain ⟨taken, htaken, hfields⟩ := hs.fields hi
    obtain ⟨bs'', hb'', rfl⟩ := exists_blank_of_skipSpace htaken
    have hfield := Spelled.Field.mk blank_nil hkey hb (.mk hb' hvalue ha)
    exact ⟨_, by simp, .more hfield (hfields.blank_append hb'')⟩

theorem spelledWith (fuel : Nat) : SpelledWith fuel := by
  induction fuel with
  | zero =>
    refine ⟨?_, ?_, ?_⟩
    · intro room cs v rest h
      rw [value.eq_def] at h
      cases h
    · intro room cs vs rest h
      cases h
    · intro room cs fs rest h
      rw [fields.eq_def] at h
      cases h
  | succ fuel ih => exact ⟨value_spelled ih, items_spelled ih, fields_spelled ih⟩

end JsonReader

/-- A text that spells a value, with blanks around it. -/
def JsonTree.SpelledBy (v : Json) (s : String) : Prop := Spelled.Item s.toList v

/-- What is read from a document text is what the text spells. -/
theorem spelledBy_of_readJson {s : String} {v : Json} (h : readJson .strict s = .ok v) :
    v.SpelledBy s := by
  obtain ⟨rest, hv, he⟩ := readJson_eq_ok_iff.1 h
  obtain ⟨taken, htaken, hvalue⟩ := (JsonReader.spelledWith _).value hv
  obtain ⟨bs, hb, hs⟩ := Spelled.exists_blank_of_skipSpace htaken
  obtain ⟨as, ha, hrest⟩ := Spelled.exists_blank_of_skipSpace (List.isEmpty_iff.1 he)
  rw [List.append_nil] at hrest
  rw [JsonTree.SpelledBy, hs, hrest]
  exact .mk hb hvalue ha

end TradingSignals
