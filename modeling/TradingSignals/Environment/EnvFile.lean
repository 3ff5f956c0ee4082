import TradingSignals.Environment.Variables
import TradingSignals.Text.Character

namespace TradingSignals

namespace EnvFile

/-- Blank, or one of the four separators before the space. -/
def isSpace (c : Char) : Bool := isBlank c || ('\x1c' ≤ c && c ≤ '\x1f')

/-- Space within a line. -/
def isGap (c : Char) : Bool := isSpace c && c != '\n'

def dropGap (cs : List Char) : List Char := cs.dropWhile isGap

def dropLine (cs : List Char) : List Char := (cs.dropWhile (· != '\n')).drop 1

/-- Drops a note: a `#` with space before it, and all after. -/
def dropNote : List Char → List Char
  | [] => []
  | c :: cs =>
    if isSpace c && (cs.dropWhile isSpace).head? == some '#' then [] else c :: dropNote cs

def dropEndSpace (cs : List Char) : List Char := (cs.reverse.dropWhile isSpace).reverse

/-- Up to the closing quote, and what follows it. A quote behind a backslash closes the value
only when no other one does. -/
def quotedBody (quote : Char) : List Char → Option (List Char × List Char)
  | [] => none
  | [c] => if c == quote then some ([], []) else none
  | c :: d :: cs =>
    if c == quote then some ([], d :: cs)
    else if c == '\\' && d == quote then
      match quotedBody quote cs with
      | some (value, rest) => some (c :: d :: value, rest)
      | none => some ([c], cs)
    else match quotedBody quote (d :: cs) with
      | some (value, rest) => some (c :: value, rest)
      | none => none

/-- What a character behind a backslash stands for in single quotes. -/
def singleEscapes : List (Char × Char) := [('\\', '\\'), ('\'', '\'')]

def doubleEscapes : List (Char × Char) :=
  singleEscapes ++
    [('"', '"'), ('a', '\x07'), ('b', '\x08'), ('f', '\x0c'), ('n', '\n'), ('r', '\r'),
     ('t', '\t'), ('v', '\x0b')]

def unescape (escapes : List (Char × Char)) : List Char → List Char
  | [] => []
  | [c] => [c]
  | c :: d :: cs =>
    match if c == '\\' then escapes.lookup d else none with
    | some e => e :: unescape escapes cs
    | none => c :: unescape escapes (d :: cs)

/-- Takes a value, quoted or up to a note or the end of the line. An error tells where the text
goes on. -/
def takeValue : List Char → Except (List Char) (List Char × List Char)
  | '\'' :: cs => match quotedBody '\'' cs with
    | some (value, rest) => .ok (unescape singleEscapes value, rest)
    | none => .error ('\'' :: cs)
  | '"' :: cs => match quotedBody '"' cs with
    | some (value, rest) => .ok (unescape doubleEscapes value, rest)
    | none => .error ('"' :: cs)
  | cs => .ok (dropEndSpace (dropNote (cs.takeWhile (· != '\n'))), cs.dropWhile (· != '\n'))

def dropExport (cs : List Char) : List Char :=
  match cs with
  | 'e' :: 'x' :: 'p' :: 'o' :: 'r' :: 't' :: c :: rest => if isGap c then dropGap rest else cs
  | _ => cs

/-- Takes a name; a note has none. -/
def takeName : List Char → Except (List Char) (Option (List Char) × List Char)
  | '#' :: cs => .ok (none, '#' :: cs)
  | '\'' :: cs =>
    let name := cs.takeWhile (· != '\'')
    match cs.dropWhile (· != '\'') with
    | _ :: rest => if name.isEmpty then .error ('\'' :: cs) else .ok (some name, rest)
    | [] => .error ('\'' :: cs)
  | cs =>
    let stops (c : Char) : Bool := c == '=' || c == '#' || isSpace c
    let name := cs.takeWhile fun c => !stops c
    if name.isEmpty then .error cs else .ok (some name, cs.dropWhile fun c => !stops c)

/-- The end of a line, perhaps after a note. -/
def takeEnd (cs : List Char) : Except (List Char) (List Char) :=
  match dropGap cs with
  | [] => .ok []
  | '\n' :: rest => .ok rest
  | '#' :: rest => .ok (dropLine rest)
  | _ => .error cs

def takeAssignment (cs : List Char) :
    Except (List Char) (Option Assignment × List Char) := do
  let (name, rest) ← takeName (dropExport cs)
  let (value, rest) ← match dropGap rest with
    | '=' :: rest => (fun (v, rest) => (some v, rest)) <$> takeValue (dropGap rest)
    | rest => .ok (none, rest)
  let rest ← takeEnd rest
  return (name.map fun n => (String.ofList n, value.map String.ofList), rest)

/-- All assignments in order. A line that is none is passed over. The number is fuel, never
short when it is the length of the text. -/
def assignments : Nat → List Char → List Assignment
  | 0, _ => []
  | fuel + 1, cs =>
    match cs.dropWhile isSpace with
    | [] => []
    | c :: cs => match takeAssignment (c :: cs) with
      | .ok (a, rest) => a.toList ++ assignments fuel rest
      | .error rest => assignments fuel (dropLine rest)

/-- Every way to end a line becomes the same one. -/
def plainLines : List Char → List Char
  | [] => []
  | [c] => [if c = '\r' then '\n' else c]
  | c :: d :: cs =>
    if c = '\r' ∧ d = '\n' then '\n' :: plainLines cs
    else (if c = '\r' then '\n' else c) :: plainLines (d :: cs)

/-- The assignments of a file of variables. -/
def read (s : String) : List Assignment :=
  let cs := plainLines s.toList
  assignments cs.length cs

end EnvFile

end TradingSignals
