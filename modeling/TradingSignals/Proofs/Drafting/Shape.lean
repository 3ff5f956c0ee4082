import TradingSignals.Drafting.Chat
import TradingSignals.Proofs.Strategy.RoundTrip

namespace TradingSignals

/-- A key that is left out, or under which null stands. -/
def Lacks (key : String) (fields : List (String × Json)) : Prop :=
  ∀ v, lastField? key fields = some v → v = .null

/-- A message with its content, which is a text if it has one. -/
inductive MessageShape : Json → Option String → Prop
  | silent {fields : List (String × Json)} (h : Lacks "content" fields) :
    MessageShape (.object fields) none
  | content {fields : List (String × Json)} {s : String}
    (h : lastField? "content" fields = some (.text s)) : MessageShape (.object fields) (some s)

/-- A choice with the content of its message, if it has one. -/
inductive ChoiceShape : Json → Option String → Prop
  | silent {fields : List (String × Json)} (h : Lacks "message" fields) :
    ChoiceShape (.object fields) none
  | message {fields : List (String × Json)} {m : Json} {content : Option String}
    (h : lastField? "message" fields = some m) (hm : MessageShape m content) :
    ChoiceShape (.object fields) content

/-- A completion with the contents of its choices. Every choice has the shape of one. -/
inductive CompletionShape : Json → List (Option String) → Prop
  | silent {fields : List (String × Json)} (h : Lacks "choices" fields) :
    CompletionShape (.object fields) []
  | choices {fields : List (String × Json)} {items : List Json} {contents : List (Option String)}
    (h : lastField? "choices" fields = some (.array items))
    (hi : List.Forall₂ ChoiceShape items contents) : CompletionShape (.object fields) contents

theorem FieldName.nullable_eq_ok_iff {α : Type} {key : String} {decode : Json → Decoded α}
    {fields : List (String × Json)} {o : Option α} :
    (⟨key, key⟩ : FieldName).nullable decode fields = .ok o ↔
      Lacks key fields ∧ o = none ∨
        ∃ v x, lastField? key fields = some v ∧ v ≠ .null ∧ decode v = .ok x ∧ o = some x := by
  have hfind : (⟨key, key⟩ : FieldName).find? fields = (lastField? key fields).map (key, ·) := by
    unfold find?
    cases lastField? key fields <;> rfl
  cases hl : lastField? key fields with
  | none =>
    rw [hl] at hfind
    rw [nullable_of_absent hfind]
    simp [Lacks, hl, eq_comm]
  | some v =>
    rw [hl] at hfind
    by_cases hv : v = .null
    · rw [hv] at hfind
      rw [nullable_of_null hfind]
      simp [Lacks, hl, hv, eq_comm]
    · rw [nullable_of_find? hfind hv]
      simp [Lacks, hl, hv, eq_comm]

namespace Decode

variable {v : Json}

theorem text_eq_ok_iff {s : String} : text v = .ok s ↔ v = .text s := by
  cases v <;> simp [text, Decoded.fault]

theorem messageContent_eq_ok_iff {content : Option String} :
    messageContent v = .ok content ↔ MessageShape v content := by
  rw [messageContent, object_eq_ok_iff]
  simp only [FieldName.nullable_eq_ok_iff, text_eq_ok_iff]
  constructor
  · rintro ⟨fields, rfl, ⟨h, rfl⟩ | ⟨w, s, h, -, rfl, rfl⟩⟩
    · exact .silent h
    · exact .content h
  · intro h
    cases h with
    | silent h => exact ⟨_, rfl, Or.inl ⟨h, rfl⟩⟩
    | content h => exact ⟨_, rfl, Or.inr ⟨_, _, h, nofun, rfl, rfl⟩⟩

theorem choiceContent_eq_ok_iff {content : Option String} :
    choiceContent v = .ok content ↔ ChoiceShape v content := by
  have hmap : ∀ a : Decoded (Option (Option String)),
      a.map (·.join) = .ok content ↔ ∃ x, a = .ok x ∧ x.join = content :=
    fun a => Decoded.map_eq_ok_iff
  rw [choiceContent, object_eq_ok_iff]
  simp only [hmap, FieldName.nullable_eq_ok_iff, messageContent_eq_ok_iff]
  constructor
  · rintro ⟨fields, rfl, o, ⟨h, rfl⟩ | ⟨w, x, h, -, hm, rfl⟩, rfl⟩
    · exact .silent h
    · exact .message h hm
  · intro h
    cases h with
    | silent h => exact ⟨_, rfl, none, Or.inl ⟨h, rfl⟩, rfl⟩
    | message h hm =>
      have hne : ∀ {w}, MessageShape w content → w ≠ .null := by
        rintro w hw rfl
        cases hw
      exact ⟨_, rfl, some _, Or.inr ⟨_, _, h, hne hm, hm, rfl⟩, rfl⟩

theorem choiceContents_eq_ok_iff {contents : List (Option String)} :
    choiceContents v = .ok contents ↔ CompletionShape v contents := by
  have hmap : ∀ a : Decoded (Option (List (Option String))),
      a.map (·.getD []) = .ok contents ↔ ∃ x, a = .ok x ∧ x.getD [] = contents :=
    fun a => Decoded.map_eq_ok_iff
  have hlist : ∀ w found, list choiceContent w = .ok found ↔
      ∃ items, w = .array items ∧ List.Forall₂ ChoiceShape items found := by
    intro w found
    cases w with
    | array items => simp [list, indexed_eq_ok_iff, choiceContent_eq_ok_iff]
    | _ => simp [list, Decoded.fault]
  rw [choiceContents, object_eq_ok_iff]
  simp only [hmap, FieldName.nullable_eq_ok_iff, hlist]
  constructor
  · rintro ⟨fields, rfl, o, ⟨h, rfl⟩ | ⟨w, x, h, -, ⟨items, rfl, hi⟩, rfl⟩, rfl⟩
    · exact .silent h
    · exact .choices h hi
  · intro h
    cases h with
    | silent h => exact ⟨_, rfl, none, Or.inl ⟨h, rfl⟩, rfl⟩
    | choices h hi => exact ⟨_, rfl, some _, Or.inr ⟨_, _, h, nofun, ⟨_, rfl, hi⟩, rfl⟩, rfl⟩

end Decode

/-- The bytes of a completion: proper UTF-8, strict JSON, and the shape of one. -/
def CompletionBody (body : List UInt8) (contents : List (Option String)) : Prop :=
  ∃ s v, decodeUtf8 body = .ok s ∧ readJson .strict s = .ok v ∧ CompletionShape v contents

theorem readChoices_eq_ok_iff {body : List UInt8} {contents : List (Option String)} :
    readChoices body = .ok contents ↔ CompletionBody body contents := by
  have htext : ∀ s, (RawText.bytes body).text? = some s ↔ decodeUtf8 body = .ok s := by
    intro s
    rw [RawText.text?]
    cases decodeUtf8 body <;> simp [Except.toOption]
  rw [readChoices, decodeRaw_eq_ok_iff, CompletionBody]
  simp only [htext, Decode.choiceContents_eq_ok_iff]

end TradingSignals
