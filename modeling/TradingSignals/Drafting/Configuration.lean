import TradingSignals.Environment.Variables
import TradingSignals.Drafting.Chat

namespace TradingSignals

inductive LogLevel where
  | info
  | warning
  | error
  deriving DecidableEq

structure LogLine where
  level : LogLevel
  text : String
  deriving DecidableEq

/-- The timeout that a variable gives: a positive number of seconds. -/
def timeoutOf? (s : String) : Option Binary64 :=
  (readFloatAnyScript? s.toList).filter fun x => (Place.point 0).lt x.place

/-- The timeout, and what is logged when the variable for it makes no sense. -/
def timeoutSetting (env : Variables) : Number × List LogLine :=
  match env.lookup "OPENAI_TIMEOUT_SECONDS" with
  | none => (ChatEndpoint.defaultTimeout, [])
  | some s => match timeoutOf? s with
    | some x => (.float x, [])
    | none =>
      (ChatEndpoint.defaultTimeout,
       [⟨.warning, "Invalid OPENAI_TIMEOUT_SECONDS=" ++ quoted s ++ "; using 60.0s"⟩])

/-- The endpoint that the variables describe. -/
def ChatEndpoint.ofVariables (env : Variables) : ChatEndpoint :=
  configured (env.lookup "OPENAI_API_KEY") (env.lookup "OPENAI_API_URL")
    (env.lookup "OPENAI_MODEL") (timeoutSetting env).1

/-- What the service logs when it starts. -/
def startupLog (env : Variables) : List LogLine :=
  [⟨.info, "Starting Strategy Builder Service..."⟩,
   ⟨.info, "Server running on port " ++ (env.lookup "PORT").getD "8080"⟩,
   ⟨.info, "OPENAI_API_URL: " ++ (env.lookup "OPENAI_API_URL").getD "default"⟩] ++
  (if (given? (env.lookup "OPENAI_API_KEY")).isNone then
    [⟨.warning, "OPENAI_API_KEY is not set; /strategies/build will fail"⟩] else []) ++
  [⟨.info, "Ready for requests"⟩]

def shutdownLog : List LogLine := [⟨.info, "Shutting down Strategy Builder Service..."⟩]

end TradingSignals
