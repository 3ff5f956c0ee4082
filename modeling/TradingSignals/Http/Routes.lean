import TradingSignals.Http.StandIn

namespace TradingSignals

inductive HttpMethod where
  | get
  | post
  deriving DecidableEq

structure HttpRequest where
  method : HttpMethod
  path : String
  query : List (String × String)
  body : List UInt8

inductive HttpResponse where
  | json (v : Json)
  | text (s : String)
  /-- The body does not fit. -/
  | refused (faults : List SchemaFault)
  /-- The body is no JSON. -/
  | malformed
  /-- The body cannot be read as JSON or as anything else. -/
  | unreadable
  | notFound
  | wrongMethod
  /-- There is no answer, or none that can be sent. -/
  | broken

namespace HttpResponse

def status : HttpResponse → Nat
  | .json _ | .text _ => 200
  | .refused _ | .malformed => 422
  | .unreadable => 400
  | .notFound => 404
  | .wrongMethod => 405
  | .broken => 500

def contentType : HttpResponse → String
  | .text _ | .broken => "text/plain; charset=utf-8"
  | _ => "application/json"

def detail (s : String) : Json := .object [("detail", .text s)]

/-- What does not fit is sent back. Only a text that is too short is told the length it lacks. -/
def faultToJson (f : SchemaFault) : Json :=
  .object
    ([("type", .text (f.cause.code .body)),
      ("loc", .array (f.loc.map fun
        | .key name => .text name
        | .index i => .int i)),
      ("msg", .text (f.cause.message .body)),
      ("input", f.input)] ++
      if f.cause = .tooShort then [("ctx", .object [("min_length", .int 1)])] else [])

/-- The body of a response that is plain text. -/
def text? : HttpResponse → Option String
  | .text s => some s
  | .broken => some "Internal Server Error"
  | _ => none

/-- The body of a response that is JSON; in an answer a double that is not finite is null. What is
told of a body that is no JSON comes from the reader of JSON and is left out. -/
def json? : HttpResponse → Option Json
  | .json v => some v.finite
  | .text _ | .malformed | .broken => none
  | .refused faults => some (.object [("detail", .array (faults.map faultToJson))])
  | .unreadable => some (detail "There was an error parsing the body")
  | .notFound => some (detail "Not Found")
  | .wrongMethod => some (detail "Method Not Allowed")

/-- The response as it can be sent: its JSON holds finite doubles and proper texts only. -/
def sent (standIns : StandIns) (r : HttpResponse) : HttpResponse :=
  if (r.json?.getD .null).all Binary64.isFinite (fun s => !standIns.occurIn s) then r else .broken

end HttpResponse

namespace Decode

def nonEmptyText : Json → Decoded String
  | .text s => if s.isEmpty then .fault .tooShort (.text s) else .ok s
  | v => .fault .notText v

/-- The description in a request to build. -/
def description : Json → Decoded String :=
  object ((⟨"text", "text"⟩ : FieldName).required nonEmptyText)

end Decode

inductive Route where
  | health
  | catalog
  | registry
  | validate
  | compile
  | build
  deriving DecidableEq

/-- The routes by their paths; each has one method. -/
def routes : List (String × HttpMethod × Route) :=
  [("/health", .get, .health), ("/catalog", .get, .catalog),
   ("/catalog/registry", .get, .registry), ("/strategies/validate", .post, .validate),
   ("/strategies/compile", .post, .compile), ("/strategies/build", .post, .build)]

/-- A service: its catalog, a drafter if it has one, and how it tells failures. -/
structure Service where
  catalog : Catalog
  drafter : Option Drafter
  wording : Wording

namespace Service

def listed (service : Service) (pattern : Option String) : HttpResponse :=
  .json (.array ((match given? pattern with
    | some pattern => service.catalog.search pattern
    | none => service.catalog.toList).map Capability.toJson))

def validated (service : Service) (d : StrategyDocument) : HttpResponse :=
  match d.problems service.catalog with
  | .error _ => .broken
  | .ok problems => .json (.object
      [("is_valid", .bool problems.isEmpty),
       ("errors", .array (problems.map Problem.toJson)),
       ("message", .text (problemSummary problems))])

/-- An outcome is sent when its texts are proper and what it holds is no deeper than a signal may
be. -/
def built (service : Service) (outcome : BuildOutcome) : HttpResponse :=
  match outcome.toJson? service.wording with
  | .ok v => if outcome.isProper && v.depth ≤ maxLevels + 1 then .json v else .broken
  | .error _ => .broken

/-- Answers with what a body decodes to, or with the reason that it does not. -/
def withBody {α : Type} (service : Service) (decode : Json → Decoded α) (body : List UInt8)
    (respond : StandIns → α → HttpResponse) : HttpResponse :=
  if body.isEmpty then .refused [⟨[.key "body"], .missing, .null⟩]
  else match readJsonBytes body with
    | .error (.fault .malformed) => .malformed
    | .error _ => .unreadable
    | .ok v =>
      let standIns := StandIns.of service.catalog v
      let response := match (decode (v.mapText standIns.text)).inside (.key "body") with
        | .ok a => respond standIns a
        | .faulty faults => .refused (faults.map standIns.place)
      response.sent standIns

/-- The response of a route to a request that reaches it. A description has to be proper text. -/
def answer (service : Service) (r : HttpRequest) : Route → HttpResponse
  | .health => .json (.object [("status", .text "healthy")])
  | .catalog => service.listed (r.query.lookup "q")
  | .registry => .text service.catalog.registryText
  | .validate => service.withBody (Decode.strategyDocument .body) r.body fun _ d =>
    service.validated d
  | .compile => service.withBody (Decode.strategyDocument .body) r.body fun standIns d =>
    service.built (standIns.outcome (d.build service.catalog))
  | .build => service.withBody Decode.description r.body fun standIns description =>
    if standIns.occurIn description then .broken
    else service.built (buildStrategy service.catalog service.drafter description)

def respond (service : Service) (r : HttpRequest) : HttpResponse :=
  match routes.lookup r.path with
  | none => .notFound
  | some (method, route) => if method = r.method then service.answer r route else .wrongMethod

end Service

end TradingSignals
