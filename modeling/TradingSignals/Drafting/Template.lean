namespace TradingSignals

/-- What a template is made of: characters that stay, and fields that are filled. -/
inductive TemplatePiece where
  | char (c : Char)
  | field (name : List Char)
  deriving DecidableEq

namespace Template

/-- The pieces of a template. A doubled brace is a brace, and a field is a name in braces, which
has nothing but its name here. Of a field that is open the name is known in reverse. None when a
brace is not closed, or closes nothing. -/
def pieces? : Option (List Char) → List Char → Option (List TemplatePiece)
  | none, [] => some []
  | none, '\x7b' :: '\x7b' :: cs => (pieces? none cs).map (.char '\x7b' :: ·)
  | none, '\x7d' :: '\x7d' :: cs => (pieces? none cs).map (.char '\x7d' :: ·)
  | none, '\x7b' :: cs => pieces? (some []) cs
  | none, '\x7d' :: _ => none
  | none, c :: cs => (pieces? none cs).map (.char c :: ·)
  | some _, [] => none
  | some _, '\x7b' :: _ => none
  | some name, '\x7d' :: cs => (pieces? none cs).map (.field name.reverse :: ·)
  | some name, c :: cs => pieces? (some (c :: name)) cs

/-- Fills each field with its value, which is not looked into. None when a field has no value. -/
def fill? (values : List (String × String)) : List TemplatePiece → Option (List Char)
  | [] => some []
  | .char c :: ps => (fill? values ps).map (c :: ·)
  | .field name :: ps =>
    (values.lookup (String.ofList name)).bind fun v => (fill? values ps).map (v.toList ++ ·)

/-- The text that a template makes of the values for its fields. -/
def format? (values : List (String × String)) (template : List Char) : Option (List Char) :=
  (pieces? none template).bind (fill? values)

end Template

end TradingSignals
