import TradingSignals.Build.Outcome
import TradingSignals.CommandLine.Invocation
import TradingSignals.Environment.FileTree

namespace TradingSignals

/-- What a command leaves behind. -/
structure CommandResult where
  code : Nat
  out : String := ""
  err : String := ""
  log : List LogLine := []
  deriving DecidableEq

def lines (ls : List String) : String := String.join (ls.map (· ++ "\n"))

def usageLine : String :=
  "usage: strategy-builder [-h] [--verbose] \x7bcatalog,validate,compile,build\x7d ..."

def helpLines : List String :=
  [usageLine,
   "",
   "Build trading signals from natural language",
   "",
   "positional arguments:",
   "  \x7bcatalog,validate,compile,build\x7d",
   "                        Command to run",
   "    catalog             List available signals",
   "    validate            Validate an IR JSON file",
   "    compile             Compile an IR JSON file",
   "    build               Build a strategy from a description",
   "",
   "options:",
   "  -h, --help            show this help message and exit",
   "  --verbose, -v         Enable debug logging"]

/-- Fills a column; a text too long for it is not cut. -/
def column (width : Nat) (s : String) : String :=
  s ++ String.ofList (List.replicate (width - s.length) ' ')

def tableRow (id name category args children : String) : String :=
  column 15 id ++ " " ++ column 15 name ++ " " ++ column 10 category ++ " " ++
    column 25 args ++ " " ++ column 8 children

def Capability.row (c : Capability) : String :=
  let args := String.intercalate ", " (c.requiredArgs.map (·.key))
  tableRow c.id c.name c.category (if args == "" then "-" else args)
    (String.ofList (intText c.requiredChildren))

def catalogTable (cs : List Capability) : String :=
  lines (["", tableRow "ID" "Name" "Category" "Args" "Children",
    String.ofList (List.replicate 78 '-')] ++ cs.map Capability.row)

/-- Reads the document in a file, or tells what is wrong with the file. -/
def readDocumentFile (wording : Wording) (path : String) (state : FileState) :
    Except String StrategyDocument :=
  let path := plainPath path
  match state with
  | .missing => .error ("IR file not found: " ++ path)
  | .directory =>
    .error ("Could not read IR file " ++ path ++ ": [Errno 21] Is a directory: " ++ quoted path)
  | .file content => match decodeUtf8 content with
    | .error e => .error ("Could not read IR file " ++ path ++ ": " ++ e.message)
    | .ok s => match StrategyDocument.read s with
      | .error failure =>
        .error ("Could not parse IR file " ++ path ++ ": " ++
          wording "IntermediateRepresentation" failure)
      | .ok d => .ok d

namespace CommandResult

def unreadable (reason : String) : CommandResult where
  code := 2
  log := [⟨.error, reason⟩]

/-- The outcome as a report, with its question or its error once more for the reader. -/
def ofOutcome (wording : Wording) (outcome : BuildOutcome) : CommandResult where
  code := if outcome.succeeded then 0 else 1
  out := outcome.write wording 2 ++ "\n"
  err := match outcome.question, outcome.errorMessage wording with
    | some question, _ => "\n❓ " ++ question ++ "\n"
    | none, some message => "\n❌ " ++ message ++ "\n"
    | none, none => ""
  log := outcome.log wording

def ofProblems (problems : List Problem) : CommandResult where
  code := if problems.isEmpty then 0 else 1
  out := problemSummary problems ++ "\n"

def ofCatalog (catalog : Catalog) (search : Option String) (registry : Bool) : CommandResult :=
  if registry then { code := 0, out := catalog.registryText ++ "\n" }
  else
    let found := match given? search with
      | some pattern => catalog.search pattern
      | none => catalog.toList
    if found.isEmpty then
      { code := 1, out := "No signals match '" ++ search.getD "None" ++ "'\n" }
    else { code := 0, out := catalogTable found }

end CommandResult

/-- Carries a command out. The file it names is looked up by `look`, and what preparing the
drafter logged comes first. A number too large for a double ends a validation. -/
def Invocation.run (catalog : Catalog) (wording : Wording) (look : String → FileState)
    (drafter : Drafter) (preparation : List LogLine) :
    Invocation → Except ConversionFault CommandResult
  | .overview => .ok { code := 0, out := lines helpLines }
  | .catalog search registry => .ok (.ofCatalog catalog search registry)
  | .validate path => match readDocumentFile wording path (look path) with
    | .error reason => .ok (.unreadable reason)
    | .ok d => (CommandResult.ofProblems ·) <$> d.problems catalog
  | .compile path => match readDocumentFile wording path (look path) with
    | .error reason => .ok (.unreadable reason)
    | .ok d => .ok (.ofOutcome wording (d.build catalog))
  | .build description =>
    let result := CommandResult.ofOutcome wording (buildStrategy catalog (some drafter) description)
    .ok { result with log := preparation ++ result.log }

end TradingSignals
