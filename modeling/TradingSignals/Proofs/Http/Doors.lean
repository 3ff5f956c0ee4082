import TradingSignals.CommandLine.Command
import TradingSignals.Http.Routes
import TradingSignals.Proofs.Build.ResultText
import TradingSignals.Proofs.Build.RuleCodes
import TradingSignals.Proofs.Json.Bytes
import TradingSignals.Proofs.Strategy.Doors

namespace TradingSignals

namespace StandIns

theorem surrogates_ofString (s : String) : (LooseText.ofString s).surrogates = [] := by
  rw [LooseText.surrogates, LooseText.ofString, List.filterMap_map]
  exact List.filterMap_eq_nil_iff.2 fun _ _ => rfl

/-- Proper texts need no stand-ins. -/
theorem of_mapText_ofString (catalog : Catalog) (v : Json) :
    StandIns.of catalog (v.mapText LooseText.ofString) = [] := by
  have hnone : (v.mapText LooseText.ofString).texts.flatMap LooseText.surrogates = [] := by
    rw [JsonTree.texts_mapText, List.flatMap_map]
    exact List.flatMap_eq_nil_iff.2 fun s _ => surrogates_ofString s
  rw [StandIns.of, hnone]
  rfl

theorem text_nil_ofString (s : String) : StandIns.text [] (LooseText.ofString s) = s := by
  rw [text, LooseText.ofString, List.map_map]
  exact (congrArg String.ofList (List.map_id s.toList)).trans String.ofList_toList

theorem outcome_nil (outcome : BuildOutcome) : StandIns.outcome [] outcome = outcome := by
  have hrestore : ∀ t, restore [] t = t := by
    intro t
    apply (List.map_congr_left _).trans (List.map_id' t)
    intro c _
    cases c with
    | char c => rfl
    | surrogate n => rfl
  unfold StandIns.outcome
  split
  · rw [hrestore]
  · rfl

end StandIns

namespace HttpResponse

theorem sent_nil_json (v : Json) : (HttpResponse.json v).sent [] = .json v := by
  have hproper : (fun s => !StandIns.occurIn [] s) = fun _ => true := by
    funext s
    have hnone : StandIns.occurIn [] s = false := List.any_eq_false.2 fun _ _ => nofun
    rw [hnone]
    rfl
  rw [sent, hproper]
  exact if_pos v.allFinite_finite

end HttpResponse

/-- The document that a service takes from the body of a request. -/
def Service.taken? (service : Service) (body : List UInt8) : Option StrategyDocument :=
  match readJsonBytes body with
  | .ok v =>
    (Decode.strategyDocument .body (v.mapText (StandIns.of service.catalog v).text)).value?
  | .error _ => none

namespace Service

variable {service : Service} {body : List UInt8} {d : StrategyDocument}

/-- What is taken is answered, and the answer is sent if it can be. -/
theorem withBody_of_taken (h : service.taken? body = some d) :
    ∃ v, readJsonBytes body = .ok v ∧
      ∀ respond, service.withBody (Decode.strategyDocument .body) body respond =
        (respond (StandIns.of service.catalog v) d).sent (StandIns.of service.catalog v) := by
  unfold taken? at h
  cases hv : readJsonBytes body with
  | error fault =>
    rw [hv] at h
    cases h
  | ok v =>
    rw [hv] at h
    refine ⟨v, rfl, ?_⟩
    intro respond
    have hne : body.isEmpty = false := by
      cases body with
      | nil => cases hv
      | cons b body => rfl
    rw [withBody, hne, hv]
    dsimp only at h ⊢
    cases hd : Decode.strategyDocument .body (v.mapText (StandIns.of service.catalog v).text) with
    | faulty faults =>
      rw [hd] at h
      cases h
    | ok e =>
      rw [hd] at h
      cases h
      rfl

/-- Of a document text the document is taken in which each key stands once. -/
theorem taken?_utf8Bytes {text : String} {v : Json} (h : readJson .strict text = .ok v) :
    service.taken? (utf8Bytes text) = (Decode.strategyDocument .body v.settled).value? := by
  have hnone := StandIns.of_mapText_ofString service.catalog v.settled
  have hback := JsonTree.mapText_mapText_of_inverse StandIns.text_nil_ofString v.settled
  rw [taken?, readJsonBytes_utf8Bytes h]
  dsimp only
  rw [hnone, hback]

/-- Both doors make the same of a document text. -/
theorem eq_of_taken {text : String} {e : StrategyDocument} (hd : StrategyDocument.read text = .ok d)
    (he : service.taken? (utf8Bytes text) = some e) : e = d := by
  obtain ⟨v, hv, hdocument⟩ := decodeText_eq_ok_iff.1 hd
  rw [taken?_utf8Bytes hv] at he
  exact Decode.strategyDocument_agrees v d e hdocument (Decoded.value?_eq_some_iff.1 he)

/-- Nothing has to stand in for anything of a document text. -/
theorem withBody_of_read {text : String} (hd : StrategyDocument.read text = .ok d)
    (ht : service.taken? (utf8Bytes text) = some d)
    (respond : StandIns → StrategyDocument → HttpResponse) :
    service.withBody (Decode.strategyDocument .body) (utf8Bytes text) respond =
      (respond [] d).sent [] := by
  obtain ⟨v, hv, -⟩ := decodeText_eq_ok_iff.1 hd
  obtain ⟨w, hw, hanswer⟩ := withBody_of_taken ht
  cases (readJsonBytes_utf8Bytes hv).symm.trans hw
  rw [hanswer, StandIns.of_mapText_ofString]

theorem sent_nil_validated : (service.validated d).sent [] = service.validated d := by
  unfold validated
  cases d.problems service.catalog with
  | error fault => rfl
  | ok problems => exact HttpResponse.sent_nil_json _

theorem sent_nil_built (outcome : BuildOutcome) :
    (service.built outcome).sent [] = service.built outcome := by
  unfold built
  cases outcome.toJson? service.wording with
  | error fault => rfl
  | ok v =>
    dsimp only
    split
    · exact HttpResponse.sent_nil_json v
    · rfl

/-- What is built of a document text is always sent. -/
theorem built_of_read {text : String} (h : StrategyDocument.read text = .ok d) :
    service.built (d.build service.catalog) =
      .json ((d.build service.catalog).toJson service.wording) := by
  have hlevels : ((d.build service.catalog).toJson service.wording).FitsIn (199 + 3) :=
    StrategyDocument.fitsIn_of_levels (StrategyDocument.settings_written_of_read h)
      fun _ _ hl => StrategyDocument.depth_toWire_le_of_built h hl
  have hdepth : ((d.build service.catalog).toJson service.wording).depth ≤ maxLevels + 1 :=
    hlevels.depth.trans (by decide)
  rw [built, StrategyDocument.toJson?_of_read h]
  dsimp only
  rw [StrategyDocument.isProper_build, Bool.true_and, if_pos (decide_eq_true hdepth)]

section

variable {text : String} (hd : StrategyDocument.read text = .ok d)
  (ht : service.taken? (utf8Bytes text) = some d) (query : List (String × String))
include hd ht

theorem respond_validate : service.respond ⟨.post, "/strategies/validate", query, utf8Bytes text⟩ =
    service.validated d := by
  have hroute : service.respond ⟨.post, "/strategies/validate", query, utf8Bytes text⟩ =
      service.withBody (Decode.strategyDocument .body) (utf8Bytes text) fun _ d =>
        service.validated d := rfl
  rw [hroute, withBody_of_read hd ht, sent_nil_validated]

theorem respond_compile : service.respond ⟨.post, "/strategies/compile", query, utf8Bytes text⟩ =
    service.built (d.build service.catalog) := by
  have hroute : service.respond ⟨.post, "/strategies/compile", query, utf8Bytes text⟩ =
      service.withBody (Decode.strategyDocument .body) (utf8Bytes text) fun standIns d =>
        service.built (standIns.outcome (d.build service.catalog)) := rfl
  rw [hroute, withBody_of_read hd ht, StandIns.outcome_nil, sent_nil_built]

end

end Service

theorem readDocumentFile_utf8Bytes {wording : Wording} {path text : String} {d : StrategyDocument}
    (hd : StrategyDocument.read text = .ok d) :
    readDocumentFile wording path (.file (utf8Bytes text)) = .ok d := by
  simp only [readDocumentFile, decodeUtf8_utf8Bytes, hd]

/-- What is told of a problem. -/
structure Problem.IsTold (p : Problem) (item : Json) : Prop where
  path : item.field? "Path" = some (.text p.path)
  message : item.field? "Message" = some (.text p.message)
  kind : item.field? "Kind" = some (.text p.kind.name)

/-- What the two doors answer where a document has these problems. -/
structure ValidationAnswers (problems : List Problem) (response : HttpResponse)
    (result : CommandResult) : Prop where
  status : response.status = 200
  body : ∃ (body : Json) (items : List Json), response.json? = some body ∧
    body.field? "is_valid" = some (.bool (result.code == 0)) ∧
    body.field? "errors" = some (.array items) ∧ List.Forall₂ Problem.IsTold problems items ∧
    body.field? "message" = some (.text (problemSummary problems))
  code : result.code = 0 ↔ problems = []
  out : result.out = problemSummary problems ++ "\n"

/-- What the two doors answer where a document is built: one and the same report. -/
structure BuildAnswers (wording : Wording) (catalog : Catalog) (d : StrategyDocument)
    (response : HttpResponse) (result : CommandResult) : Prop where
  status : response.status = 200
  report : ∃ doc, (d.build catalog).toJson? wording = .ok doc ∧ d.Reported wording catalog doc ∧
    response.json? = some doc.finite ∧ result.out = doc.write (.report 2) ++ "\n"
  code : result.code = 0 ↔ (d.build catalog).status = "success"

theorem validationAnswers_of_problems {service : Service} {d : StrategyDocument}
    {problems : List Problem} (h : d.problems service.catalog = .ok problems) :
    ValidationAnswers problems (service.validated d) (.ofProblems problems) := by
  have hresponse : service.validated d = .json (.object
      [("is_valid", .bool problems.isEmpty),
       ("errors", .array (problems.map Problem.toJson)),
       ("message", .text (problemSummary problems))]) := by
    rw [Service.validated, h]
  have hitems : (JsonTree.array (problems.map Problem.toJson)).finite =
      .array (problems.map fun p => p.toJson.finite) := by
    rw [JsonTree.finite_array, List.map_map]
    rfl
  rw [hresponse]
  refine ⟨rfl, ⟨_, problems.map fun p => p.toJson.finite, rfl, ?_, congrArg some hitems, ?_, rfl⟩,
    ?_, rfl⟩
  · cases problems <;> rfl
  · rw [List.forall₂_map_right_iff, List.forall₂_same]
    exact fun p _ => ⟨rfl, rfl, rfl⟩
  · cases problems <;> simp [CommandResult.ofProblems]

theorem buildAnswers_of_read {service : Service} {text : String} {d : StrategyDocument}
    (h : StrategyDocument.read text = .ok d) :
    BuildAnswers service.wording service.catalog d (service.built (d.build service.catalog))
      (.ofOutcome service.wording (d.build service.catalog)) := by
  rw [Service.built_of_read h]
  refine ⟨rfl, ⟨_, StrategyDocument.toJson?_of_read h _, StrategyDocument.reported, rfl, rfl⟩, ?_⟩
  cases d.build service.catalog <;>
    simp [CommandResult.ofOutcome, BuildOutcome.succeeded, BuildOutcome.status]

/-- A text that both doors take is the same document behind both of them, and they answer alike:
with the same problems, or with the same report of its build. A document that cannot be checked is
answered by neither. -/
theorem StrategyDocument.doors_agree {service : Service} {text : String} {d e : StrategyDocument}
    (hd : StrategyDocument.read text = .ok d) (he : service.taken? (utf8Bytes text) = some e) :
    e = d ∧
    ∀ query path look drafter preparation, look path = .file (utf8Bytes text) →
      let post (route : String) := service.respond ⟨.post, route, query, utf8Bytes text⟩
      let run := Invocation.run service.catalog service.wording look drafter preparation
      (∀ problems, d.problems service.catalog = .ok problems →
        ∃ result, run (.validate path) = .ok result ∧
          ValidationAnswers problems (post "/strategies/validate") result) ∧
      (∀ fault, d.problems service.catalog = .error fault →
        run (.validate path) = .error fault ∧ post "/strategies/validate" = .broken) ∧
      ∃ result, run (.compile path) = .ok result ∧
        BuildAnswers service.wording service.catalog d (post "/strategies/compile") result := by
  obtain rfl := Service.eq_of_taken hd he
  refine ⟨rfl, ?_⟩
  intro query path look drafter preparation hlook post run
  have hread : readDocumentFile service.wording path (look path) = .ok e := by
    rw [hlook, readDocumentFile_utf8Bytes hd]
  have hvalidate : post "/strategies/validate" = service.validated e :=
    Service.respond_validate hd he query
  have hcompile : post "/strategies/compile" = service.built (e.build service.catalog) :=
    Service.respond_compile hd he query
  have hrun : run (.validate path) =
      (CommandResult.ofProblems ·) <$> e.problems service.catalog := by
    simp only [run, Invocation.run, hread]
  refine ⟨?_, ?_, ?_⟩
  · intro problems hp
    rw [hvalidate]
    refine ⟨.ofProblems problems, ?_, validationAnswers_of_problems hp⟩
    rw [hrun, hp]
    rfl
  · intro fault hf
    rw [hvalidate, Service.validated, hrun, hf]
    exact ⟨rfl, rfl⟩
  · rw [hcompile]
    refine ⟨.ofOutcome service.wording (e.build service.catalog), ?_, buildAnswers_of_read hd⟩
    simp only [run, Invocation.run, hread]

/-- A length written twice, the second time as no number; names in both spellings; a count of
positions in a text, and one past the doubles that would be a size. Both doors tell of the same
problems. -/
theorem lax_document_agrees :
    let text := "\x7b\"strategy\": \x7b\"EntrySignals\": [\x7b\"catalog_id\": \"sma\", " ++
      "\"Args\": \x7b\"Length\": 5, \"Length\": NaN\x7d\x7d], \"Settings\": " ++
      "\x7b\"MaxPositions\": \"3\", \"PositionSize\": 9007199254740993\x7d\x7d\x7d"
    ∃ d problems, StrategyDocument.read text = .ok d ∧
      (d.signal? .entry 0 []).any (fun m => m.args = [("Length", .float .nan)]) ∧
      d.problems .builtIn = .ok problems ∧ problems ≠ [] ∧
      ∀ wording drafter,
        let service : Service := ⟨.builtIn, none, wording⟩
        service.taken? (utf8Bytes text) = some d ∧
        ∃ result, Invocation.run .builtIn wording (fun _ => .file (utf8Bytes text)) drafter []
            (.validate "d.json") = .ok result ∧
          ValidationAnswers problems
            (service.respond ⟨.post, "/strategies/validate", [], utf8Bytes text⟩) result := by
  intro text
  have hall : (readJson .strict text).toOption.any fun v =>
      ((Decode.strategyDocument .document v).value?.any fun d =>
        (d.signal? .entry 0 []).any (fun m => m.args = [("Length", .float .nan)]) &&
          (d.problems .builtIn).toOption.any (!·.isEmpty)) &&
      (Decode.strategyDocument .body v.settled).value?.isSome := by
    decide +kernel
  obtain ⟨v, hv, hboth⟩ := any_toOption_iff.1 hall
  rw [Bool.and_eq_true, Option.any_eq_true] at hboth
  obtain ⟨⟨d, hdecoded, hp⟩, hsome⟩ := hboth
  rw [Bool.and_eq_true, any_toOption_iff] at hp
  obtain ⟨hargs, problems, hproblems, hne⟩ := hp
  have hd : StrategyDocument.read text = .ok d :=
    decodeText_eq_ok_iff.2 ⟨v, hv, Decoded.value?_eq_some_iff.1 hdecoded⟩
  refine ⟨d, problems, hd, hargs, hproblems, ?_, ?_⟩
  · rintro rfl
    cases hne
  · intro wording drafter service
    obtain ⟨e, he⟩ := Option.isSome_iff_exists.1 hsome
    have htaken : service.taken? (utf8Bytes text) = _ := Service.taken?_utf8Bytes hv
    rw [← htaken] at he
    obtain ⟨rfl, hanswers⟩ := StrategyDocument.doors_agree hd he
    obtain ⟨hvalidated, -, -⟩ :=
      hanswers [] "d.json" (fun _ => .file (utf8Bytes text)) drafter [] rfl
    exact ⟨he, hvalidated problems hproblems⟩

end TradingSignals
