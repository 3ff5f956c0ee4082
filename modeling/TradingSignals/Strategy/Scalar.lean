import TradingSignals.Number.Numeral
import TradingSignals.Text.Quoted

namespace TradingSignals

/-- The value of an argument as it was written. -/
inductive Scalar where
  | int (v : Int)
  | float (x : Binary64)
  | text (s : String)
  | flag (b : Bool)
  deriving DecidableEq

/-- Why a scalar has no value as a double. -/
inductive ConversionFault where
  | unreadable (s : LooseText)
  | tooLarge
  deriving DecidableEq

def ConversionFault.message : ConversionFault → String
  | .unreadable s => "could not convert string to float: " ++ String.ofList s.quoted
  | .tooLarge => "int too large to convert to float"

/-- The nearest double of a whole number that lies among the doubles. -/
def floatOfInt (v : Int) : Except ConversionFault Binary64 :=
  let x := Binary64.ofInt v
  if x.isFinite then .ok x else .error .tooLarge

def Number.toFloat : Number → Except ConversionFault Binary64
  | .int v => floatOfInt v
  | .float x => .ok x

namespace Scalar

/-- The number that a scalar is; a flag or a text is none. -/
def number? : Scalar → Option Number
  | .int v => some (.int v)
  | .float x => some (.float x)
  | _ => none

def toFloat : Scalar → Except ConversionFault Binary64
  | .int v => floatOfInt v
  | .float x => .ok x
  | .flag b => .ok (.ofInt b.toInt)
  | .text s => match readFloatAnyScript? s.toList with
    | some x => .ok x
    | none => .error (.unreadable (LooseText.ofString s))

/-- Equal as written values: numbers by their exact value, texts by their characters. -/
def same : Scalar → Scalar → Bool
  | .text s, .text t => s == t
  | .flag b, .flag c => b == c
  | x, y => match x.number?, y.number? with
    | some m, some n => m.place.same n.place
    | _, _ => false

end Scalar

/-- A double in messages and keys; a whole one shows no fraction, however large it is. -/
def Binary64.shown (x : Binary64) : String :=
  String.ofList (match x.toInt? with
    | some v => intText v
    | none => FloatStyle.report.text x)

def Scalar.shown : Scalar → String
  | .int v => String.ofList (intText v)
  | .float x => x.shown
  | .text s => s
  | .flag true => "True"
  | .flag false => "False"

end TradingSignals
