import TradingSignals.Text.Character

namespace TradingSignals

inductive OptionName where
  | help
  | verbose
  | search
  | registry
  deriving DecidableEq

/-- The options that are known at a point of a command line, in each of their spellings. -/
abbrev OptionSet := List (String × OptionName)

/-- How a word of a command line is taken. Flags may end in something that is none. -/
inductive Word where
  | value (s : String)
  | flags (names : List OptionName) (stray : Bool)
  | setting (name : OptionName) (value : Option String)
  | misused
  | unknown
  | terminator

def OptionName.takesValue : OptionName → Bool
  | .search => true
  | _ => false

/-- Digits behind a minus sign, perhaps with a point among them: a value, not an option. -/
def isNegativeNumber (cs : List Char) : Bool :=
  let isDigit (c : Char) : Bool := (digitValue? c).isSome
  match cs with
  | '-' :: body =>
    let body := if body.getLast? == some '\n' then body.dropLast else body
    match body.dropWhile isDigit with
    | [] => !body.isEmpty
    | '.' :: fraction => !fraction.isEmpty && fraction.all isDigit
    | _ => false
  | _ => false

/-- Flags written behind one dash, after the first of them, and whether something else follows
them. A dash or a value cannot stand there. -/
def moreFlags (options : OptionSet) : List Char → Option (List OptionName × Bool)
  | [] => some ([], false)
  | c :: cs =>
    if c == '-' || c == '=' then none
    else match options.lookup (String.ofList ['-', c]) with
      | none => some ([], true)
      | some name => match moreFlags options cs with
        | some (names, stray) => some (name :: names, stray)
        | none => none

/-- An option with what stands behind its `=`. -/
def optionWith (name : OptionName) (given : Option String) : Word :=
  if name.takesValue then .setting name given
  else if given.isNone then .flags [name] false
  else .misused

/-- A flag behind one dash, with what is glued to it. -/
def gluedFlags (options : OptionSet) (name : OptionName) (glued : List Char) : Word :=
  match moreFlags options glued with
  | some (names, stray) => .flags (name :: names) stray
  | none => .misused

/-- A word with a dash that is no option: a number or a text with spaces is a value. -/
def dashed (s : String) : Word :=
  if isNegativeNumber s.toList || s.toList.contains ' ' then .value s else .unknown

/-- How a word is taken; none when it abbreviates several options. -/
def OptionSet.word? (options : OptionSet) (s : String) : Option Word :=
  match s.toList with
  | '-' :: c :: cs =>
    match options.lookup s with
    | some name => some (optionWith name none)
    | none =>
      let start := String.ofList (s.toList.takeWhile (· != '='))
      let given := if start == s then none
        else some (String.ofList ((s.toList.dropWhile (· != '=')).drop 1))
      match given, options.lookup start with
      | some v, some name => some (optionWith name (some v))
      | _, _ =>
        if c == '-' then
          match options.filter fun o => start.toList.isPrefixOf o.1.toList with
          | [] => some (dashed s)
          | [o] => some (optionWith o.2 given)
          | _ => none
        else match options.lookup (String.ofList ['-', c]) with
          | some name => some (gluedFlags options name cs)
          | none => some (dashed s)
  | _ => some (.value s)

/-- All words; behind two dashes alone, every word is a value. -/
def OptionSet.words? (options : OptionSet) : List String → Option (List (String × Word))
  | [] => some []
  | s :: rest =>
    if s == "--" then some ((s, .terminator) :: rest.map fun t => (t, .value t))
    else do
      let word ← options.word? s
      let words ← options.words? rest
      return (s, word) :: words

end TradingSignals
