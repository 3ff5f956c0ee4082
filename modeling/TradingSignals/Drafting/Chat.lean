import TradingSignals.Catalog.Catalog
import TradingSignals.Strategy.Decoding
import TradingSignals.Text.Utf8
import TradingSignals.Drafting.ErrorBody
import TradingSignals.Drafting.Prompt

namespace TradingSignals

/-- The endpoint that turns descriptions into documents. -/
structure ChatEndpoint where
  apiKey : Option String
  url : String
  model : String
  timeout : Number
  deriving DecidableEq

namespace ChatEndpoint

def defaultUrl : String := "https://api.openai.com/v1/chat/completions"

def defaultModel : String := "gpt-4o"

/-- Seconds. -/
def defaultTimeout : Number := .float (.ofInt 60)

/-- An endpoint whose url and model have their usual values unless they are given. -/
def configured (apiKey url model : Option String) (timeout : Number) : ChatEndpoint where
  apiKey := apiKey
  url := (given? url).getD defaultUrl
  model := (given? model).getD defaultModel
  timeout := timeout

end ChatEndpoint

/-- Low, so that the same description is drafted in the same way. -/
def temperature : Binary64 := .ofDecimal false 1 (-1)

def chatMessage (role content : String) : Json :=
  .object [("role", .text role), ("content", .text content)]

/-- The body of a request: the task, with the signals of the catalog, and then the
description. -/
def chatRequest (catalog : Catalog) (model description : String) : Json :=
  .object
    [("model", .text model),
     ("messages", .array
       [chatMessage "system" (systemPrompt catalog.registryText),
        chatMessage "user" description]),
     ("temperature", .float temperature),
     ("response_format", .object [("type", .text "json_object")])]

/-- What a header cannot carry: characters beyond ASCII, and where they begin. -/
structure HeaderFault where
  position : Nat
  run : List Char
  deriving DecidableEq

def isAscii (c : Char) : Bool := c.toNat < 128

/-- The first characters of a header that are not ASCII. -/
def headerFault? (value : String) : Option HeaderFault :=
  match value.toList.dropWhile isAscii with
  | [] => none
  | c :: cs =>
    some ⟨(value.toList.takeWhile isAscii).length, (c :: cs).takeWhile fun c => !isAscii c⟩

def HeaderFault.message (f : HeaderFault) : String :=
  let place := match f.run with
    | [c] => "character '" ++ String.ofList (hexEscape c.toNat) ++ "' in position " ++
        String.ofList (natText f.position)
    | _ => "characters in position " ++ String.ofList (natText f.position) ++ "-" ++
        String.ofList (natText (f.position + f.run.length - 1))
  "'ascii' codec can't encode " ++ place ++ ": ordinal not in range(128)"

/-- What comes of sending a request: a response, a failure of the request, or an error that is
none of the connection's. -/
inductive ChatReply where
  | response (status : Nat) (body : List UInt8)
  | requestFailed (detail : String)
  | foreignError (detail : String)

/-- Why there is no document for a description. -/
inductive DraftFault where
  | missingKey
  | unsendableKey (fault : HeaderFault)
  | requestFailed (detail : String)
  | refused (status : Nat) (detail : LooseText)
  | tooDeep (container : JsonContainer)
  | unreadableResponse (failure : SchemaFailure)
  | noChoices
  | noContent
  | unreadableDocument (failure : SchemaFailure)
  | foreign (detail : String)

namespace DraftFault

def message (wording : Wording) : DraftFault → String
  | .missingKey =>
    "OPENAI_API_KEY is not configured. Set it in a .env file or the environment."
  | .unsendableKey fault => fault.message
  | .requestFailed detail => "OpenAI API request failed: " ++ detail
  | .refused status detail =>
    "OpenAI API error (" ++ String.ofList (natText status) ++ "): " ++ detail.lossy
  | .tooDeep container =>
    "maximum recursion depth exceeded while decoding a JSON " ++ container.name ++
      " from a unicode string"
  | .unreadableResponse failure =>
    "Failed to decode OpenAI API response: " ++ wording "ChatCompletionResponse" failure
  | .noChoices => "No response from LLM - API returned empty choices array"
  | .noContent => "Empty response from LLM - message content is null or empty"
  | .unreadableDocument failure =>
    "Failed to parse LLM response as IR - " ++ wording "IntermediateRepresentation" failure
  | .foreign detail => detail

/-- What is logged when the fault is met. -/
def record? : DraftFault → Option String
  | .refused status detail =>
    some ("Completion API returned " ++ String.ofList (natText status) ++ ": " ++ detail.lossy)
  | _ => none

end DraftFault

namespace Decode

def messageContent : Json → Decoded (Option String) :=
  object ((⟨"content", "content"⟩ : FieldName).nullable text)

/-- A choice without a message has no content. -/
def choiceContent : Json → Decoded (Option String) :=
  object fun fields =>
    ((⟨"message", "message"⟩ : FieldName).nullable messageContent fields).map (·.join)

/-- The content of every choice of a response; all of them are checked. -/
def choiceContents : Json → Decoded (List (Option String)) :=
  object fun fields =>
    ((⟨"choices", "choices"⟩ : FieldName).nullable (list choiceContent) fields).map (·.getD [])

end Decode

/-- Decodes the body of a response, which must be proper UTF-8. -/
def readChoices (body : List UInt8) : Except SchemaFailure (List (Option String)) :=
  decodeRaw Decode.choiceContents (.bytes body)

/-- The document in a response of success: it is the content of the first choice. -/
def documentInBody (body : List UInt8) : Except DraftFault StrategyDocument :=
  match readChoices body with
  | .error failure => .error (.unreadableResponse failure)
  | .ok [] => .error .noChoices
  | .ok (content :: _) => match given? content with
    | none => .error .noContent
    | some s => (StrategyDocument.read s).mapError .unreadableDocument

def documentInReply : ChatReply → Except DraftFault StrategyDocument
  | .foreignError detail => .error (.foreign detail)
  | .requestFailed detail => .error (.requestFailed detail)
  | .response status body =>
    if 200 ≤ status ∧ status < 300 then documentInBody body
    else match describeErrorBody (decodeUtf8Lossy body) with
      | .ok detail => .error (.refused status detail)
      | .error container => .error (.tooDeep container)

/-- A request as it is sent; the key authorises it. -/
structure ChatRequest where
  url : String
  authorization : String
  body : Json

namespace ChatEndpoint

/-- The request for a description. Without a key, or with one that no header can carry, there is
none. -/
def request (endpoint : ChatEndpoint) (catalog : Catalog) (description : String) :
    Except DraftFault ChatRequest :=
  match given? endpoint.apiKey with
  | none => .error .missingKey
  | some key => match headerFault? ("Bearer " ++ key) with
    | some fault => .error (.unsendableKey fault)
    | none => .ok ⟨endpoint.url, "Bearer " ++ key, chatRequest catalog endpoint.model description⟩

/-- Drafts the document of a description when `send` carries requests to the endpoint. -/
def draft (endpoint : ChatEndpoint) (catalog : Catalog) (send : ChatRequest → ChatReply)
    (description : String) : Except DraftFault StrategyDocument :=
  match endpoint.request catalog description with
  | .error fault => .error fault
  | .ok request => documentInReply (send request)

end ChatEndpoint

end TradingSignals
