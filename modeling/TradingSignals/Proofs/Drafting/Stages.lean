import TradingSignals.Proofs.Drafting.Shape
import TradingSignals.Proofs.Validation.Lacks

namespace TradingSignals

/-- What a draft has to get past. -/
inductive DraftStage where
  | key
  | transport
  | status
  | body
  | choices
  | content
  | document

/-- The stages in the order they are met. -/
def DraftStage.all : List DraftStage :=
  [.key, .transport, .status, .body, .choices, .content, .document]

/-- The stage that a fault tells of. The other faults are none of drafting itself and come through
under names of their own. -/
def DraftFault.stage? : DraftFault → Option DraftStage
  | .missingKey => some .key
  | .requestFailed _ => some .transport
  | .refused .. => some .status
  | .unreadableResponse _ => some .body
  | .noChoices => some .choices
  | .noContent => some .content
  | .unreadableDocument _ => some .document
  | .unsendableKey _ | .tooDeep _ | .foreign _ => none

namespace ChatReply

/-- What a connection comes to: a failure of the request, or a response whose body can be looked
into. -/
def Regular : ChatReply → Prop
  | .response _ body => ∀ container,
    readJson .loose (decodeUtf8Lossy body) ≠ .error (.tooDeep container)
  | .requestFailed _ => True
  | .foreignError _ => False

def Completes (reply : ChatReply) (contents : List (Option String)) : Prop :=
  ∃ status body, reply = .response status body ∧ CompletionBody body contents

/-- A response of success whose first choice holds a document. -/
def Gives (reply : ChatReply) (d : StrategyDocument) : Prop :=
  ∃ status body s more, reply = .response status body ∧ 200 ≤ status ∧ status ≤ 299 ∧
    CompletionBody body (some s :: more) ∧ s ≠ "" ∧ StrategyDocument.read s = .ok d

/-- What is told of a reply at the stage that it fails at. Of the shape of a response or a document
it is told in the words there are for the failure. -/
inductive Tells (wording : Wording) (reply : ChatReply) : DraftStage → String → Prop
  | key :
    Tells wording reply .key
      "OPENAI_API_KEY is not configured. Set it in a .env file or the environment."
  | transport {detail : String} (h : reply = .requestFailed detail) :
    Tells wording reply .transport ("OpenAI API request failed: " ++ detail)
  | status {status : Nat} {body : List UInt8} {detail : LooseText}
    (h : reply = .response status body)
    (hd : describeErrorBody (decodeUtf8Lossy body) = .ok detail) :
    Tells wording reply .status
      ("OpenAI API error (" ++ String.ofList (natText status) ++ "): " ++ detail.lossy)
  | body {status : Nat} {body : List UInt8} {failure : SchemaFailure}
    (h : reply = .response status body) (hf : readChoices body = .error failure) :
    Tells wording reply .body
      ("Failed to decode OpenAI API response: " ++ wording "ChatCompletionResponse" failure)
  | choices :
    Tells wording reply .choices "No response from LLM - API returned empty choices array"
  | content :
    Tells wording reply .content "Empty response from LLM - message content is null or empty"
  | document {s : String} {more : List (Option String)} {failure : SchemaFailure}
    (h : reply.Completes (some s :: more)) (hf : StrategyDocument.read s = .error failure) :
    Tells wording reply .document
      ("Failed to parse LLM response as IR - " ++ wording "IntermediateRepresentation" failure)

end ChatReply

namespace DraftStage

/-- Whether a key and the reply to a request with it get past a stage. -/
def Passes (key : Option String) (reply : ChatReply) : DraftStage → Prop
  | .key => ∃ k, key = some k ∧ k ≠ ""
  | .transport => ∃ status body, reply = .response status body
  | .status => ∃ status body, reply = .response status body ∧ 200 ≤ status ∧ status ≤ 299
  | .body => ∃ contents, reply.Completes contents
  | .choices => ∃ content more, reply.Completes (content :: more)
  | .content => ∃ s more, reply.Completes (some s :: more) ∧ s ≠ ""
  | .document => ∃ s more d, reply.Completes (some s :: more) ∧ StrategyDocument.read s = .ok d

/-- All stages before are passed, and this one is not. -/
def FailsFirst (key : Option String) (reply : ChatReply) (stage : DraftStage) : Prop :=
  ∃ before after, all = before ++ stage :: after ∧ (∀ s ∈ before, s.Passes key reply) ∧
    ¬stage.Passes key reply

end DraftStage

theorem given?_eq_some_iff {o : Option String} {s : String} :
    given? o = some s ↔ o = some s ∧ s ≠ "" := by
  rw [given?, Option.filter_eq_some_iff, bne_iff_ne]

section

variable {body : List UInt8} {content : Option String} {more : List (Option String)} {s : String}

theorem documentInBody_of_unreadable {failure : SchemaFailure}
    (h : readChoices body = .error failure) :
    documentInBody body = .error (.unreadableResponse failure) := by
  rw [documentInBody, h]

theorem documentInBody_of_empty (h : readChoices body = .ok []) :
    documentInBody body = .error .noChoices := by
  rw [documentInBody, h]

theorem documentInBody_of_silent (h : readChoices body = .ok (content :: more))
    (hc : given? content = none) : documentInBody body = .error .noContent := by
  rw [documentInBody, h]
  simp only [hc]

theorem documentInBody_of_content (h : readChoices body = .ok (content :: more))
    (hc : given? content = some s) :
    documentInBody body = (StrategyDocument.read s).mapError .unreadableDocument := by
  rw [documentInBody, h]
  simp only [hc]

end

/-- The ways the body of a response of success can go: it is no completion, it holds no choice, its
first choice is silent, or that choice has a content, which is read. -/
theorem documentInBody_cases (body : List UInt8) :
    (∃ failure, readChoices body = .error failure ∧
      documentInBody body = .error (.unreadableResponse failure)) ∨
    readChoices body = .ok [] ∧ documentInBody body = .error .noChoices ∨
    (∃ content more, readChoices body = .ok (content :: more) ∧ content ∈ [none, some ""] ∧
      documentInBody body = .error .noContent) ∨
    ∃ s more, readChoices body = .ok (some s :: more) ∧ s ≠ "" ∧
      documentInBody body = (StrategyDocument.read s).mapError .unreadableDocument := by
  cases hr : readChoices body with
  | error failure => exact Or.inl ⟨failure, rfl, documentInBody_of_unreadable hr⟩
  | ok contents =>
    cases contents with
    | nil => exact Or.inr (Or.inl ⟨rfl, documentInBody_of_empty hr⟩)
    | cons content more =>
      cases hc : given? content with
      | none =>
        exact Or.inr (Or.inr (Or.inl
          ⟨content, more, rfl, given?_eq_none.1 hc, documentInBody_of_silent hr hc⟩))
      | some s =>
        obtain ⟨rfl, hs⟩ := given?_eq_some_iff.1 hc
        exact Or.inr (Or.inr (Or.inr ⟨s, more, rfl, hs, documentInBody_of_content hr hc⟩))

namespace ChatReply

variable {key : Option String} {reply : ChatReply} {fault : DraftFault} {d : StrategyDocument}

theorem documentInReply_of_gives (h : reply.Gives d) : documentInReply reply = .ok d := by
  obtain ⟨status, body, s, more, rfl, hlow, hhigh, hbody, hs, hd⟩ := h
  have hcontent : given? (some s) = some s := given?_eq_some_iff.2 ⟨rfl, hs⟩
  rw [documentInReply, if_pos ⟨hlow, by omega⟩,
    documentInBody_of_content (readChoices_eq_ok_iff.2 hbody) hcontent, hd]
  rfl

theorem gives_of_documentInReply (h : documentInReply reply = .ok d) : reply.Gives d := by
  cases reply with
  | foreignError detail => cases h
  | requestFailed detail => cases h
  | response status body =>
    rw [documentInReply] at h
    split at h
    · next hs =>
      rcases documentInBody_cases body with ⟨failure, -, hb⟩ | ⟨-, hb⟩ | ⟨_, _, -, -, hb⟩ |
        ⟨s, more, hc, hne, hb⟩
      · rw [hb] at h
        cases h
      · rw [hb] at h
        cases h
      · rw [hb] at h
        cases h
      · rw [hb] at h
        exact ⟨status, body, s, more, rfl, hs.1, by omega, readChoices_eq_ok_iff.1 hc, hne,
          mapError_eq_ok_iff.1 h⟩
    · split at h <;> cases h

theorem completes_iff {status : Nat} {body : List UInt8} {contents : List (Option String)} :
    (response status body).Completes contents ↔ readChoices body = .ok contents := by
  rw [readChoices_eq_ok_iff]
  constructor
  · rintro ⟨_, _, h, hc⟩
    cases h
    exact hc
  · intro h
    exact ⟨status, body, rfl, h⟩

/-- A body that nests too deep is the only one that is not described. -/
theorem describeErrorBody_eq_error_iff {body : String} {container : JsonContainer} :
    describeErrorBody body = .error container ↔
      readJson .loose body = .error (.tooDeep container) := by
  unfold describeErrorBody
  split
  · next h => simp [h]
  · next h => simp [h]
  · next hne h =>
    constructor
    · intro hd
      cases hd
    · intro hd
      rw [h] at hd
      cases hd
      exact absurd rfl (hne container)

section

variable {status : Nat} {body : List UInt8}
  (hkey : DraftStage.key.Passes key (response status body))
include hkey

theorem status_failsFirst (h : ¬(200 ≤ status ∧ status ≤ 299)) :
    DraftStage.status.FailsFirst key (response status body) := by
  refine ⟨[.key, .transport], [.body, .choices, .content, .document], rfl, ?_, ?_⟩
  · have htransport : DraftStage.transport.Passes key (response status body) := ⟨status, body, rfl⟩
    simp [hkey, htransport]
  · rintro ⟨_, _, he, hs⟩
    cases he
    exact h hs

variable (hlow : 200 ≤ status) (hhigh : status ≤ 299)
include hlow hhigh

theorem passes_status :
    ∀ s ∈ [DraftStage.key, .transport, .status], s.Passes key (response status body) := by
  have htransport : DraftStage.transport.Passes key (response status body) := ⟨status, body, rfl⟩
  have hstatus : DraftStage.status.Passes key (response status body) :=
    ⟨status, body, rfl, hlow, hhigh⟩
  simp [hkey, htransport, hstatus]

theorem body_failsFirst {failure : SchemaFailure} (h : readChoices body = .error failure) :
    DraftStage.body.FailsFirst key (response status body) := by
  refine ⟨_, [.choices, .content, .document], rfl, passes_status hkey hlow hhigh, ?_⟩
  rintro ⟨contents, hc⟩
  rw [completes_iff.1 hc] at h
  cases h

theorem choices_failsFirst (h : readChoices body = .ok []) :
    DraftStage.choices.FailsFirst key (response status body) := by
  have hbody : DraftStage.body.Passes key (response status body) := ⟨[], completes_iff.2 h⟩
  refine ⟨[.key, .transport, .status] ++ [.body], [.content, .document], rfl, ?_, ?_⟩
  · rw [List.forall_mem_append]
    exact ⟨passes_status hkey hlow hhigh, List.forall_mem_singleton.2 hbody⟩
  · rintro ⟨content, more, hc⟩
    rw [completes_iff.1 hc] at h
    cases h

variable {s : String} {more : List (Option String)}

theorem content_failsFirst {content : Option String}
    (h : readChoices body = .ok (content :: more)) (hc : content ∈ [none, some ""]) :
    DraftStage.content.FailsFirst key (response status body) := by
  have hbody : DraftStage.body.Passes key (response status body) := ⟨_, completes_iff.2 h⟩
  have hchoices : DraftStage.choices.Passes key (response status body) :=
    ⟨content, more, completes_iff.2 h⟩
  refine ⟨[.key, .transport, .status] ++ [.body, .choices], [.document], rfl, ?_, ?_⟩
  · rw [List.forall_mem_append]
    exact ⟨passes_status hkey hlow hhigh, by simp [hbody, hchoices]⟩
  · rintro ⟨s, more, hcompletes, hne⟩
    rw [completes_iff.1 hcompletes] at h
    cases h
    simp [hne] at hc

theorem document_failsFirst {failure : SchemaFailure} (h : readChoices body = .ok (some s :: more))
    (hs : s ≠ "") (hd : StrategyDocument.read s = .error failure) :
    DraftStage.document.FailsFirst key (response status body) := by
  have hbody : DraftStage.body.Passes key (response status body) := ⟨_, completes_iff.2 h⟩
  have hchoices : DraftStage.choices.Passes key (response status body) :=
    ⟨_, more, completes_iff.2 h⟩
  have hcontent : DraftStage.content.Passes key (response status body) :=
    ⟨s, more, completes_iff.2 h, hs⟩
  refine ⟨[.key, .transport, .status] ++ [.body, .choices, .content], [], rfl, ?_, ?_⟩
  · rw [List.forall_mem_append]
    exact ⟨passes_status hkey hlow hhigh, by simp [hbody, hchoices, hcontent]⟩
  · rintro ⟨_, _, d, hcompletes, hread⟩
    rw [completes_iff.1 hcompletes] at h
    cases h
    rw [hread] at hd
    cases hd

/-- Behind a response of success the first of the later stages that is not passed is the one that
the fault tells of. -/
theorem failsFirst_of_documentInBody (h : documentInBody body = .error fault) :
    ∃ stage, fault.stage? = some stage ∧ stage.FailsFirst key (response status body) ∧
      ∀ wording, (response status body).Tells wording stage (fault.message wording) := by
  rcases documentInBody_cases body with ⟨failure, hc, hb⟩ | ⟨hc, hb⟩ | ⟨content, more, hc, hs, hb⟩ |
    ⟨s, more, hc, hs, hb⟩
  · rw [hb] at h
    cases h
    exact ⟨.body, rfl, body_failsFirst hkey hlow hhigh hc, fun _ => .body rfl hc⟩
  · rw [hb] at h
    cases h
    exact ⟨.choices, rfl, choices_failsFirst hkey hlow hhigh hc, fun _ => .choices⟩
  · rw [hb] at h
    cases h
    exact ⟨.content, rfl, content_failsFirst hkey hlow hhigh hc hs, fun _ => .content⟩
  · rw [hb] at h
    cases hd : StrategyDocument.read s with
    | ok d =>
      rw [hd] at h
      cases h
    | error failure =>
      rw [hd] at h
      cases h
      exact ⟨.document, rfl, document_failsFirst hkey hlow hhigh hc hs hd,
        fun _ => .document (completes_iff.2 hc) hd⟩

end

/-- With a key, a fault is that of the first stage that the reply does not pass. -/
theorem failsFirst_of_documentInReply (hkey : DraftStage.key.Passes key reply)
    (hr : reply.Regular) (h : documentInReply reply = .error fault) :
    ∃ stage, fault.stage? = some stage ∧ stage.FailsFirst key reply ∧
      ∀ wording, reply.Tells wording stage (fault.message wording) := by
  cases reply with
  | foreignError detail => cases hr
  | requestFailed detail =>
    cases h
    refine ⟨.transport, rfl,
      ⟨[.key], [.status, .body, .choices, .content, .document], rfl, ?_, nofun⟩,
      fun _ => .transport rfl⟩
    exact List.forall_mem_singleton.2 hkey
  | response status body =>
    rw [documentInReply] at h
    split at h
    · next hs => exact failsFirst_of_documentInBody hkey hs.1 (by omega) h
    · next hs =>
      cases hd : describeErrorBody (decodeUtf8Lossy body) with
      | error container => exact absurd (describeErrorBody_eq_error_iff.1 hd) (hr container)
      | ok detail =>
        rw [hd] at h
        cases h
        exact ⟨.status, rfl, status_failsFirst hkey (by omega), fun _ => .status rfl hd⟩

end ChatReply

end TradingSignals
