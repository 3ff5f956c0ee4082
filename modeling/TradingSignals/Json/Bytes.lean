import TradingSignals.Json.Reader
import TradingSignals.Json.Writer

namespace TradingSignals

/-- The encoding that a mark at the start of a text names, and the text behind the mark. -/
def markedEncoding? : List UInt8 → Option (TextEncoding × List UInt8)
  | 0 :: 0 :: 0xFE :: 0xFF :: bytes => some (.utf32 true, bytes)
  | 0xFF :: 0xFE :: 0 :: 0 :: bytes => some (.utf32 false, bytes)
  | 0xFE :: 0xFF :: bytes => some (.utf16 true, bytes)
  | 0xFF :: 0xFE :: bytes => some (.utf16 false, bytes)
  | 0xEF :: 0xBB :: 0xBF :: bytes => some (.utf8, bytes)
  | _ => none

/-- The encoding of a JSON text without a mark. It starts with ASCII, so that the zeros among its
first bytes tell the width of a unit and the order of its bytes. -/
def jsonEncoding : List UInt8 → TextEncoding
  | 0 :: b :: _ :: _ :: _ => if b = 0 then .utf32 true else .utf16 true
  | _ :: 0 :: c :: d :: _ => if c = 0 ∧ d = 0 then .utf32 false else .utf16 false
  | [0, _] => .utf16 true
  | [_, 0] => .utf16 false
  | _ => .utf8

def decodeJsonBytes? (bytes : List UInt8) : Option LooseText :=
  let (encoding, text) := (markedEncoding? bytes).getD (jsonEncoding bytes, bytes)
  encoding.decode? text

/-- Spells surrogates by their escapes, which mean the same inside a text and nothing elsewhere.
Behind a backslash, where a surrogate means nothing, a character takes its place that does not
either. -/
def spellSurrogates (escaped : Bool) : LooseText → List Char
  | [] => []
  | .char c :: t => c :: spellSurrogates (c == '\\' && !escaped) t
  | .surrogate n :: t =>
    (if escaped then [' '] else JsonStyle.unitEscape n) ++ spellSurrogates false t

inductive JsonBytesFault where
  | undecodable
  | fault (fault : JsonFault)
  deriving DecidableEq

/-- Reads the bytes of a JSON text, each key of an object once with its last value. -/
def readJsonBytes (bytes : List UInt8) : Except JsonBytesFault LooseJson :=
  match decodeJsonBytes? bytes with
  | none => .error .undecodable
  | some t =>
    ((readJson .loose (String.ofList (spellSurrogates false t))).map JsonTree.settled).mapError
      .fault

end TradingSignals
