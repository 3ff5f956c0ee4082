import TradingSignals.Signal.Compilation
import TradingSignals.Signal.Encoding
import TradingSignals.Drafting.Configuration
import TradingSignals.Validation.Finding

namespace TradingSignals

/-- Why a build broke off. -/
inductive BuildFault where
  | drafting (fault : DraftFault)
  | validation (fault : ConversionFault)
  | compilation (fault : CompileFault)

def BuildFault.message (wording : Wording) : BuildFault → String
  | .drafting fault => fault.message wording
  | .validation fault => fault.message
  | .compilation fault => fault.message wording

/-- What comes of building a strategy; signals and settings are there only when all of it
succeeded. -/
inductive BuildOutcome where
  | success (entry exit : List CompiledSignal) (settings : Option Settings)
  | needsClarification (question : String)
  | invalid (problems : List Problem)
  | failed (fault : BuildFault)
  | noDrafter

namespace BuildOutcome

def succeeded : BuildOutcome → Bool
  | .success .. => true
  | _ => false

def status : BuildOutcome → String
  | .success .. => "success"
  | .needsClarification _ => "needs_clarification"
  | .invalid _ => "validation_failed"
  | .failed _ | .noDrafter => "failed"

def signals : BuildOutcome → SignalList → Option (List CompiledSignal)
  | .success entry _ _, .entry => some entry
  | .success _ exit _, .exit => some exit
  | _, _ => none

def settings : BuildOutcome → Option Settings
  | .success _ _ settings => settings
  | _ => none

def errorMessage (wording : Wording) : BuildOutcome → Option String
  | .invalid problems => some (problemSummary problems)
  | .failed fault => some ("Error building strategy: " ++ fault.message wording)
  | .noDrafter => some "No translator configured"
  | _ => none

def question : BuildOutcome → Option String
  | .needsClarification question => some question
  | _ => none

def problems : BuildOutcome → Option (List Problem)
  | .invalid problems => some problems
  | _ => none

/-- The errors that a build logs. -/
def log (wording : Wording) : BuildOutcome → List LogLine
  | .failed fault =>
    ((match fault with
      | .drafting fault => fault.record?.toList
      | _ => []) ++ ["Strategy build failed - " ++ fault.message wording]).map (⟨.error, ·⟩)
  | _ => []

def signalsToJson : Option (List CompiledSignal) → Json :=
  Json.ofOption fun signals => .array (signals.map CompiledSignal.toWire)

/-- The outcome as a document; problems are listed only when there are some. -/
def toJson (wording : Wording) (outcome : BuildOutcome) : Json :=
  .object
    ([("Success", .bool outcome.succeeded),
      ("Status", .text outcome.status),
      ("EntrySignals", signalsToJson (outcome.signals .entry)),
      ("ExitSignals", signalsToJson (outcome.signals .exit)),
      ("Settings", Json.ofOption Settings.toJson outcome.settings),
      ("ErrorMessage", Json.ofText? (outcome.errorMessage wording)),
      ("ClarificationRequest", Json.ofText? outcome.question)] ++
      match outcome.problems with
      | some problems => [("ValidationErrors", .array (problems.map Problem.toJson))]
      | none => [])

/-- The outcome as a document, unless a signal in it is too deep. -/
def toJson? (wording : Wording) (outcome : BuildOutcome) : Except TooDeep Json :=
  if ([SignalList.entry, .exit].filterMap outcome.signals).all (·.all CompiledSignal.fits) then
    .ok (outcome.toJson wording)
  else .error .signal

/-- Whether all an outcome tells is proper text: only the detail of a refused request may hold
unpaired surrogates. -/
def isProper : BuildOutcome → Bool
  | .failed (.drafting (.refused _ detail)) => detail.toString?.isSome
  | _ => true

def write (wording : Wording) (indent : Nat) (outcome : BuildOutcome) : String :=
  (outcome.toJson wording).write (.report indent)

end BuildOutcome

/-- Compiles both lists and hands the settings on. -/
def Strategy.compile (catalog : Catalog) (s : Strategy) : Except CompileFault BuildOutcome := do
  let entry ← compileSignals catalog s.entrySignals
  let exit ← compileSignals catalog s.exitSignals
  return .success entry exit s.settings

/-- Builds a document. A question in it is put to the user before anything is checked. -/
def StrategyDocument.build (catalog : Catalog) (d : StrategyDocument) : BuildOutcome :=
  match d.strategy.bind fun s => given? s.clarificationRequest with
  | some question => .needsClarification question
  | none => match d.problems catalog with
    | .error fault => .failed (.validation fault)
    | .ok (p :: problems) => .invalid (p :: problems)
    | .ok [] => match (d.strategy.getD {}).compile catalog with
      | .error fault => .failed (.compilation fault)
      | .ok outcome => outcome

/-- Anything that turns a description into a document. -/
abbrev Drafter := String → Except DraftFault StrategyDocument

/-- Builds from a description, when there is a drafter for it. -/
def buildStrategy (catalog : Catalog) (drafter : Option Drafter) (description : String) :
    BuildOutcome :=
  match drafter with
  | none => .noDrafter
  | some draft => match draft description with
    | .error fault => .failed (.drafting fault)
    | .ok document => document.build catalog

end TradingSignals
