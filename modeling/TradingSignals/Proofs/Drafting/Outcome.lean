import Mathlib.Data.List.TakeWhile
import TradingSignals.Catalog.BuiltIn
import TradingSignals.Proofs.Drafting.Stages

namespace TradingSignals

theorem headerFault?_eq_none_iff {value : String} :
    headerFault? value = none ↔ ∀ c ∈ value.toList, isAscii c := by
  unfold headerFault?
  cases h : value.toList.dropWhile isAscii with
  | nil => exact iff_of_true rfl (List.dropWhile_eq_nil_iff.1 h)
  | cons c cs =>
    refine iff_of_false nofun ?_
    intro hall
    rw [List.dropWhile_eq_nil_iff.2 hall] at h
    cases h

namespace ChatEndpoint

variable {endpoint : ChatEndpoint} {catalog : Catalog} {send : ChatRequest → ChatReply}
  {description : String}

/-- Drafting when requests are sent in some monad. -/
def draftIn {m : Type → Type} [Monad m] (endpoint : ChatEndpoint) (catalog : Catalog)
    (send : ChatRequest → m ChatReply) (description : String) :
    m (Except DraftFault StrategyDocument) :=
  match endpoint.request catalog description with
  | .error fault => pure (.error fault)
  | .ok request => documentInReply <$> send request

/-- Sends a request and puts it down behind those sent before. -/
def keeping (send : ChatRequest → ChatReply) (request : ChatRequest) :
    StateM (List ChatRequest) ChatReply := do
  modify (· ++ [request])
  return send request

/-- What a draft gives, and the requests that it sends. -/
def draftKeeping (endpoint : ChatEndpoint) (catalog : Catalog) (send : ChatRequest → ChatReply)
    (description : String) : Except DraftFault StrategyDocument × List ChatRequest :=
  Id.run ((endpoint.draftIn catalog (keeping send) description).run [])

def HasKey (endpoint : ChatEndpoint) : Prop := ∃ k, endpoint.apiKey = some k ∧ k ≠ ""

/-- A header can carry the key, if there is one. -/
def Sendable (endpoint : ChatEndpoint) : Prop :=
  ∀ k ∈ endpoint.apiKey, ∀ c ∈ k.toList, isAscii c

/-- The only request there is for a description. -/
def requestFor (endpoint : ChatEndpoint) (catalog : Catalog) (description : String) : ChatRequest :=
  ⟨endpoint.url, "Bearer " ++ endpoint.apiKey.getD "",
    chatRequest catalog endpoint.model description⟩

theorem draftKeeping_fst :
    (endpoint.draftKeeping catalog send description).1 =
      endpoint.draft catalog send description := by
  unfold draftKeeping draftIn draft
  cases endpoint.request catalog description <;> rfl

theorem draftKeeping_snd :
    (endpoint.draftKeeping catalog send description).2 =
      (endpoint.request catalog description).toOption.toList := by
  unfold draftKeeping draftIn
  cases endpoint.request catalog description <;> rfl

theorem request_of_no_key (h : ¬endpoint.HasKey) :
    endpoint.request catalog description = .error .missingKey := by
  have hnone : given? endpoint.apiKey = none := by
    apply Option.eq_none_iff_forall_ne_some.2
    intro k hk
    exact h ⟨k, given?_eq_some_iff.1 hk⟩
  rw [request, hnone]

theorem all_ascii_bearer {k : String} :
    (∀ c ∈ ("Bearer " ++ k).toList, isAscii c) ↔ ∀ c ∈ k.toList, isAscii c := by
  have hbearer : ∀ c ∈ "Bearer ".toList, isAscii c := List.all_eq_true.1 rfl
  rw [String.toList_append, List.forall_mem_append]
  exact and_iff_right hbearer

theorem request_of_key (hk : endpoint.HasKey) (hs : endpoint.Sendable) :
    endpoint.request catalog description = .ok (endpoint.requestFor catalog description) := by
  obtain ⟨k, hk⟩ := hk
  have hfault : headerFault? ("Bearer " ++ k) = none :=
    headerFault?_eq_none_iff.2 (all_ascii_bearer.2 (hs k hk.1))
  rw [request, given?_eq_some_iff.2 hk, requestFor, hk.1]
  simp only [hfault, Option.getD_some]

/-- A key that no header can carry is not empty. -/
theorem exists_request_fault (h : ¬endpoint.Sendable) (catalog : Catalog) (description : String) :
    ∃ fault, endpoint.request catalog description = .error (.unsendableKey fault) := by
  obtain ⟨k, hk, hc⟩ : ∃ k, endpoint.apiKey = some k ∧ ¬∀ c ∈ k.toList, isAscii c := by
    by_contra hno
    exact h fun k hk => by_contra fun hc => hno ⟨k, hk, hc⟩
  have hne : k ≠ "" := by
    rintro rfl
    exact hc (List.forall_mem_nil _)
  obtain ⟨fault, hf⟩ : ∃ fault, headerFault? ("Bearer " ++ k) = some fault := by
    rw [← Option.ne_none_iff_exists']
    intro hn
    exact hc (all_ascii_bearer.1 (headerFault?_eq_none_iff.1 hn))
  refine ⟨fault, ?_⟩
  rw [request, given?_eq_some_iff.2 ⟨hk, hne⟩]
  simp only [hf]

/-- A draft gives the document in the reply to its request, or fails with what is told of the first
stage that is not passed. -/
structure Classified (endpoint : ChatEndpoint) (reply : ChatReply)
    (result : Except DraftFault StrategyDocument) : Prop where
  success : ∀ d, result = .ok d ↔ endpoint.HasKey ∧ reply.Gives d
  failure : ∀ fault, result = .error fault → ∃ stage, fault.stage? = some stage ∧
    stage.FailsFirst endpoint.apiKey reply ∧
    ∀ wording, reply.Tells wording stage (fault.message wording)

theorem classified (hs : endpoint.Sendable)
    (hr : (send (endpoint.requestFor catalog description)).Regular) :
    endpoint.Classified (send (endpoint.requestFor catalog description))
      (endpoint.draft catalog send description) := by
  unfold draft
  by_cases hk : endpoint.HasKey
  · rw [request_of_key hk hs]
    refine ⟨?_, fun fault => ChatReply.failsFirst_of_documentInReply hk hr⟩
    intro d
    constructor
    · exact fun h => ⟨hk, ChatReply.gives_of_documentInReply h⟩
    · exact fun h => ChatReply.documentInReply_of_gives h.2
  · rw [request_of_no_key hk]
    refine ⟨fun d => iff_of_false nofun fun h => hk h.1, ?_⟩
    rintro fault h
    cases h
    exact ⟨.key, rfl, ⟨[], _, rfl, List.forall_mem_nil _, hk⟩, fun _ => .key⟩

/-- Without a key no request is sent, and with one that a header can carry exactly one is. Then, and
when the reply is what a connection comes to, the draft is the document in the reply, or fails at
the first stage that is not passed. A key with other characters than ASCII is not sent either, but
comes out as a fault of no stage. -/
theorem draft_classified (endpoint : ChatEndpoint) (catalog : Catalog)
    (send : ChatRequest → ChatReply) (description : String) :
    (endpoint.draftKeeping catalog send description).1 =
      endpoint.draft catalog send description ∧
    (¬endpoint.HasKey → (endpoint.draftKeeping catalog send description).2 = []) ∧
    (endpoint.HasKey → endpoint.Sendable → (endpoint.draftKeeping catalog send description).2 =
      [endpoint.requestFor catalog description]) ∧
    (endpoint.Sendable → (send (endpoint.requestFor catalog description)).Regular →
      endpoint.Classified (send (endpoint.requestFor catalog description))
        (endpoint.draft catalog send description)) ∧
    (¬endpoint.Sendable → (endpoint.draftKeeping catalog send description).2 = [] ∧
      ∃ fault, endpoint.draft catalog send description = .error (.unsendableKey fault)) := by
  refine ⟨draftKeeping_fst, ?_, ?_, classified, ?_⟩
  · intro h
    rw [draftKeeping_snd, request_of_no_key h]
    rfl
  · intro hk hs
    rw [draftKeeping_snd, request_of_key hk hs]
    rfl
  · intro h
    obtain ⟨fault, hf⟩ := exists_request_fault h catalog description
    rw [draftKeeping_snd, draft, hf]
    exact ⟨rfl, fault, rfl⟩

/-- The usual endpoint, with a key. -/
def keyed (key : String) : ChatEndpoint := configured (some key) none none defaultTimeout

/-- A silent choice, and one whose message is a number. -/
def mistypedChoice : List UInt8 :=
  "\x7b\"choices\": [\x7b\x7d, \x7b\"message\": 1\x7d]\x7d".toList.map fun c => UInt8.ofNat c.toNat

/-- The first choice alone would be found to have no content. -/
theorem second_choice_checked :
    ((keyed "sk").draftKeeping .builtIn (fun _ => .response 200 mistypedChoice) "").2 =
        [(keyed "sk").requestFor .builtIn ""] ∧
      ∃ fault,
        (keyed "sk").draft .builtIn (fun _ => .response 200 mistypedChoice) "" = .error fault ∧
        fault.stage? = some .body ∧
        DraftStage.body.FailsFirst (some "sk") (.response 200 mistypedChoice) ∧
        ∀ wording, (ChatReply.response 200 mistypedChoice).Tells wording .body
          (fault.message wording) := by
  have hkey : (keyed "sk").HasKey := ⟨"sk", rfl, by decide⟩
  have hsendable : (keyed "sk").Sendable := by
    intro k hk
    cases hk
    exact List.all_eq_true.1 rfl
  have hloose : ∃ v, readJson .loose (decodeUtf8Lossy mistypedChoice) = .ok v ∧ true := by
    rw [← any_toOption_iff]
    decide +kernel
  have hregular : (ChatReply.response 200 mistypedChoice).Regular := by
    obtain ⟨v, hv, -⟩ := hloose
    intro container
    rw [hv]
    exact nofun
  have hnone : (readChoices mistypedChoice).toOption.isNone := by decide +kernel
  obtain ⟨failure, hf⟩ : ∃ failure, readChoices mistypedChoice = .error failure := by
    cases hr : readChoices mistypedChoice with
    | ok contents =>
      rw [hr] at hnone
      cases hnone
    | error failure => exact ⟨failure, rfl⟩
  have hdraft : (keyed "sk").draft .builtIn (fun _ => .response 200 mistypedChoice) "" =
      .error (.unreadableResponse failure) := by
    rw [draft, request_of_key hkey hsendable]
    simp only [documentInReply]
    rw [if_pos (by decide), documentInBody_of_unreadable hf]
  obtain ⟨-, -, hrequests, hclassified, -⟩ :=
    draft_classified (keyed "sk") .builtIn (fun _ => .response 200 mistypedChoice) ""
  obtain ⟨stage, hstage, hfirst, htold⟩ := (hclassified hsendable hregular).failure _ hdraft
  cases hstage
  exact ⟨hrequests hkey hsendable, _, hdraft, rfl, hfirst, htold⟩

/-- A key with an accent is there, and yet nothing is sent and no stage is told of. -/
theorem accented_key_not_sent :
    (keyed "sk-é").HasKey ∧
      ((keyed "sk-é").draftKeeping .builtIn (fun _ => .response 200 mistypedChoice) "").2 = [] ∧
      ∃ fault,
        (keyed "sk-é").draft .builtIn (fun _ => .response 200 mistypedChoice) "" = .error fault ∧
        fault.stage? = none := by
  have hnot : ¬(keyed "sk-é").Sendable := by
    intro h
    exact absurd (h "sk-é" rfl 'é' (by decide)) (by decide)
  obtain ⟨fault, hf⟩ := exists_request_fault hnot .builtIn ""
  refine ⟨⟨"sk-é", rfl, by decide⟩, ?_, .unsendableKey fault, ?_, rfl⟩
  · rw [draftKeeping_snd, hf]
    rfl
  · rw [draft, hf]

end ChatEndpoint

end TradingSignals
