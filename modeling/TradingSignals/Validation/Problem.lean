import TradingSignals.Json.Value

namespace TradingSignals

inductive ProblemKind where
  | schema
  | unknownCapability
  | missingArgument
  | argumentType
  | argumentBound
  | childCount
  | parametricField
  deriving DecidableEq

def ProblemKind.name : ProblemKind → String
  | .schema => "schema"
  | .unknownCapability => "unknown_capability"
  | .missingArgument => "missing_argument"
  | .argumentType => "argument_type"
  | .argumentBound => "argument_bound"
  | .childCount => "child_count"
  | .parametricField => "parametric_field"

/-- What is wrong with a document, and where. -/
structure Problem where
  path : String
  message : String
  kind : ProblemKind := .schema
  deriving DecidableEq

def Problem.toJson (p : Problem) : Json :=
  .object [("Path", .text p.path), ("Message", .text p.message), ("Kind", .text p.kind.name)]

def Problem.line (p : Problem) : String := "- " ++ p.path ++ ": " ++ p.message

/-- One line for each problem, under a heading. -/
def problemSummary (problems : List Problem) : String :=
  if problems.isEmpty then "Validation passed"
  else "Validation failed:\n" ++ String.intercalate "\n" (problems.map Problem.line)

end TradingSignals
