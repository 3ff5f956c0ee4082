import TradingSignals.CommandLine.Words

namespace TradingSignals

/-- Why nothing is carried out: help was asked for, or the words make no sense. -/
inductive EarlyExit where
  | help
  | usage
  deriving DecidableEq

def EarlyExit.code : EarlyExit → Nat
  | .help => 0
  | .usage => 2

/-- What a command line asks for. -/
inductive Invocation where
  | overview
  | catalog (search : Option String) (registry : Bool)
  | validate (path : String)
  | compile (path : String)
  | build (description : String)
  deriving DecidableEq

/-- What the words of a command give. -/
structure Arguments where
  operand : Option String := none
  search : Option String := none
  registry : Bool := false
  stray : Bool := false

/-- Whether a command still awaits its operand, has taken it with the last word, or awaits
none. -/
inductive Awaiting where
  | operand
  | ended
  | nothing

def Awaiting.next : Awaiting → Awaiting
  | .operand => .operand
  | _ => .nothing

/-- Reads the words of a command from left to right. Help ends the reading at once; a word that
has no place is reported last. -/
def readArguments : Awaiting → List Word → Except EarlyExit Arguments
  | _, [] => .ok {}
  | .operand, .value s :: words =>
    (fun a => { a with operand := some s }) <$> readArguments .ended words
  | .operand, .terminator :: words => readArguments .operand words
  | .ended, .terminator :: words => readArguments .nothing words
  | _, .value _ :: words | _, .terminator :: words =>
    (fun a => { a with stray := true }) <$> readArguments .nothing words
  | awaiting, .unknown :: words =>
    (fun a => { a with stray := true }) <$> readArguments awaiting.next words
  | awaiting, .flags names stray :: words =>
    if .help ∈ names then .error .help
    else
      (fun a => { a with
        registry := a.registry || .registry ∈ names
        stray := a.stray || stray }) <$> readArguments awaiting.next words
  | awaiting, .setting _ (some v) :: words =>
    (fun a => { a with search := a.search <|> some v }) <$> readArguments awaiting.next words
  | awaiting, .setting _ none :: .value v :: words =>
    (fun a => { a with search := a.search <|> some v }) <$> readArguments awaiting.next words
  | _, .setting _ none :: _ | _, .misused :: _ => .error .usage

namespace Invocation

def helpOptions : OptionSet := [("-h", .help), ("--help", .help)]

def mainOptions : OptionSet := helpOptions ++ [("--verbose", .verbose), ("-v", .verbose)]

def catalogOptions : OptionSet :=
  helpOptions ++ [("--search", .search), ("--registry", .registry)]

/-- Reads the words behind a command that takes an operand. -/
def withOperand (make : String → Invocation) (args : List String) :
    Except EarlyExit Invocation :=
  match OptionSet.words? helpOptions args with
  | none => .error .usage
  | some words => do
    let a ← readArguments .operand (words.map (·.2))
    match a.operand with
    | some s => if a.stray then .error .usage else .ok (make s)
    | none => .error .usage

def ofCatalog (args : List String) : Except EarlyExit Invocation :=
  match OptionSet.words? catalogOptions args with
  | none => .error .usage
  | some words => do
    let a ← readArguments .nothing (words.map (·.2))
    if a.stray then .error .usage else .ok (.catalog a.search a.registry)

def ofCommand (command : String) (args : List String) : Except EarlyExit Invocation :=
  match command with
  | "catalog" => ofCatalog args
  | "validate" => withOperand .validate args
  | "compile" => withOperand .compile args
  | "build" => withOperand .build args
  | _ => .error .usage

/-- Reads the options before the command; the command takes all words behind it. -/
def ofWords (stray : Bool) : List (String × Word) → Except EarlyExit Invocation
  | [] => if stray then .error .usage else .ok .overview
  | (_, .value command) :: words => do
    let invocation ← ofCommand command (words.map (·.1))
    if stray then .error .usage else .ok invocation
  | (_, .flags names more) :: words =>
    if .help ∈ names then .error .help else ofWords (stray || more) words
  | (_, .unknown) :: words => ofWords true words
  | _ => .error .usage

/-- Reads a command line. -/
def read (args : List String) : Except EarlyExit Invocation :=
  match OptionSet.words? mainOptions args with
  | none => .error .usage
  | some words => ofWords false words

/-- The file that has to be read first. -/
def path? : Invocation → Option String
  | .validate path | .compile path => some path
  | _ => none

end Invocation

end TradingSignals
