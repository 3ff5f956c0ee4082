import TradingSignals.Build.Outcome
import TradingSignals.Json.Bytes

namespace TradingSignals

/-- Characters that stand for the unpaired surrogates of a request. They are private ones and occur
in nothing else that the answer is made of, so that one in a response betrays its surrogate. -/
abbrev StandIns := List (Nat × Char)

def LooseText.surrogates (t : LooseText) : List Nat :=
  t.filterMap fun
    | .surrogate n => some n
    | .char _ => none

def LooseText.chars (t : LooseText) : List Char := t.filterMap CodePoint.char?

namespace StandIns

/-- Gives each surrogate a private character that is not taken; the first number counts those that
are left to try. -/
def assign (taken : List Char) : Nat → List Nat → StandIns
  | 0, _ | _, [] => []
  | left + 1, n :: ns =>
    let c := Char.ofNat (0xF0000 + left)
    if c ∈ taken then assign taken left (n :: ns) else (n, c) :: assign taken left ns

/-- All characters that an answer can take from a catalog. -/
def catalogChars (catalog : Catalog) : List Char :=
  catalog.toList.flatMap fun c => c.toJson.texts.flatMap String.toList

/-- Stand-ins for a body that is answered by means of a catalog. -/
def of (catalog : Catalog) (body : LooseJson) : StandIns :=
  match (body.texts.flatMap LooseText.surrogates).eraseDups with
  | [] => []
  | ns => assign (body.texts.flatMap LooseText.chars ++ catalogChars catalog) 0xFFFD ns

def surrogate? (standIns : StandIns) (c : Char) : Option Nat :=
  (standIns.find? (·.2 == c)).map (·.1)

/-- A text with its surrogates replaced. -/
def text (standIns : StandIns) (t : LooseText) : String :=
  String.ofList (t.map fun
    | .char c => c
    | .surrogate n => (standIns.lookup n).getD '\uFFFD')

/-- The text that a replaced one comes from. -/
def restore (standIns : StandIns) (t : LooseText) : LooseText :=
  t.map fun
    | .char c => (standIns.surrogate? c).elim (.char c) .surrogate
    | .surrogate n => .surrogate n

def occurIn (standIns : StandIns) (s : String) : Bool :=
  s.toList.any fun c => (standIns.surrogate? c).isSome

/-- A name in the place of a fault. A surrogate shows as three replacement characters, one for each
byte it would take. -/
def placeName (standIns : StandIns) (s : String) : String :=
  String.ofList (s.toList.flatMap fun c =>
    if (standIns.surrogate? c).isSome then List.replicate 3 '\uFFFD' else [c])

def place (standIns : StandIns) (f : SchemaFault) : SchemaFault :=
  { f with loc := f.loc.map fun
      | .key name => .key (standIns.placeName name)
      | .index i => .index i }

/-- An outcome that quotes a text tells its surrogates by their numbers. -/
def outcome (standIns : StandIns) : BuildOutcome → BuildOutcome
  | .failed (.compilation (.conversion (.unreadable t))) =>
    .failed (.compilation (.conversion (.unreadable (standIns.restore t))))
  | outcome => outcome

end StandIns

end TradingSignals
