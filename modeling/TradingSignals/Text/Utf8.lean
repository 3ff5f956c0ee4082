import TradingSignals.Number.FloatText
import TradingSignals.Text.Quoted

namespace TradingSignals

/-- Why a sequence of bytes is no character. -/
inductive Utf8Fault where
  | invalidStart
  | invalidContinuation
  | truncated
  deriving DecidableEq

/-- A character, or the longest run of bytes that could have begun one. -/
inductive Utf8Piece where
  | char (c : Char)
  | invalid (bytes : List UInt8) (fault : Utf8Fault)
  deriving DecidableEq

/-- A character under way: its bytes so far, how many are still owed, the range of the next
one, and the bits collected. -/
structure Utf8Pending where
  taken : List UInt8
  owed : Nat
  low : UInt8
  high : UInt8
  bits : Nat

/-- What a leading byte begins. The second byte of some is restricted, so that no character
has a second form and surrogates have none. -/
def Utf8Pending.ofLead (b : UInt8) : Option Utf8Pending :=
  let n := b.toNat
  if n < 0xC2 then none
  else if n < 0xE0 then some ⟨[b], 1, 0x80, 0xBF, n % 32⟩
  else if n < 0xF0 then
    some ⟨[b], 2, if n = 0xE0 then 0xA0 else 0x80, if n = 0xED then 0x9F else 0xBF, n % 16⟩
  else if n < 0xF5 then
    some ⟨[b], 3, if n = 0xF0 then 0x90 else 0x80, if n = 0xF4 then 0x8F else 0xBF, n % 8⟩
  else none

/-- One byte between characters: the pieces it completes and the character it begins. -/
def Utf8Pending.start (b : UInt8) : List Utf8Piece × Option Utf8Pending :=
  if b.toNat < 0x80 then ([.char (Char.ofNat b.toNat)], none)
  else match ofLead b with
    | none => ([.invalid [b] .invalidStart], none)
    | some p => ([], some p)

/-- One byte inside a character; a byte out of range ends it and is looked at afresh. -/
def Utf8Pending.next (p : Utf8Pending) (b : UInt8) : List Utf8Piece × Option Utf8Pending :=
  if p.low ≤ b ∧ b ≤ p.high then
    let bits := p.bits * 64 + b.toNat % 64
    if p.owed = 1 then ([.char (Char.ofNat bits)], none)
    else ([], some ⟨p.taken ++ [b], p.owed - 1, 0x80, 0xBF, bits⟩)
  else
    let (pieces, pending) := start b
    (.invalid p.taken .invalidContinuation :: pieces, pending)

/-- Splits bytes into characters and invalid runs. -/
def utf8Pieces : Option Utf8Pending → List UInt8 → List Utf8Piece
  | none, [] => []
  | some p, [] => [.invalid p.taken .truncated]
  | pending, b :: bs =>
    let (pieces, pending) := pending.elim (Utf8Pending.start b) (·.next b)
    pieces ++ utf8Pieces pending bs

/-- The text with one replacement character for each invalid run. -/
def decodeUtf8Lossy (bytes : List UInt8) : String :=
  String.ofList ((utf8Pieces none bytes).map fun
    | .char c => c
    | .invalid .. => '\uFFFD')

/-- Where the first invalid run stands, with its bytes. -/
structure Utf8Error where
  position : Nat
  bytes : List UInt8
  fault : Utf8Fault
  deriving DecidableEq

def utf8Text (position : Nat) : List Utf8Piece → Except Utf8Error (List Char)
  | [] => .ok []
  | .invalid bytes fault :: _ => .error ⟨position, bytes, fault⟩
  | .char c :: more => (utf8Text (position + c.utf8Size) more).map (c :: ·)

def decodeUtf8 (bytes : List UInt8) : Except Utf8Error String :=
  (utf8Text 0 (utf8Pieces none bytes)).map String.ofList

def Utf8Fault.reason : Utf8Fault → String
  | .invalidStart => "invalid start byte"
  | .invalidContinuation => "invalid continuation byte"
  | .truncated => "unexpected end of data"

def Utf8Error.message (e : Utf8Error) : String :=
  let place := match e.bytes with
    | [b] => "byte 0x" ++ String.ofList (hexText 2 b.toNat) ++ " in position " ++
        String.ofList (natText e.position)
    | _ => "bytes in position " ++ String.ofList (natText e.position) ++ "-" ++
        String.ofList (natText (e.position + e.bytes.length - 1))
  "'utf-8' codec can't decode " ++ place ++ ": " ++ e.fault.reason

end TradingSignals
