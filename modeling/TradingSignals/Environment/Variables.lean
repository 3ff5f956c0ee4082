import TradingSignals.Json.Value

namespace TradingSignals

/-- The variables of a process, each with its value. -/
abbrev Variables := List (String × String)

/-- An assignment in a file; a name without a value assigns nothing. -/
abbrev Assignment := String × Option String

/-- The last assignment to each name. -/
def lastAssignments (assignments : List Assignment) : List Assignment :=
  assignments.foldl (fun done a => putField done a.1 a.2) []

/-- Adds what a file assigns. A variable that is set already, even to nothing, keeps its
value. -/
def Variables.load (env : Variables) (assignments : List Assignment) : Variables :=
  env ++ (lastAssignments assignments).filterMap fun a =>
    if (env.lookup a.1).isSome then none else a.2.map (a.1, ·)

/-- A variable named inside a value, with the text for when it is not set. -/
structure Reference where
  name : String
  standIn : String

/-- Takes the rest of a reference, from behind its opening brace. -/
def Reference.take? (cs : List Char) : Option (Reference × List Char) :=
  let inName (c : Char) : Bool := c != '}' && c != ':'
  let name := String.ofList (cs.takeWhile inName)
  match cs.dropWhile inName with
  | '}' :: rest => some (⟨name, ""⟩, rest)
  | ':' :: '-' :: rest => match rest.dropWhile (· != '}') with
    | _ :: tail => some (⟨name, String.ofList (rest.takeWhile (· != '}'))⟩, tail)
    | [] => none
  | _ => none

/-- A value with each reference replaced. The number is fuel, never short when it is the length of
the value. -/
def fillIn (meaning : Reference → String) : Nat → List Char → List Char
  | _, [] | 0, _ => []
  | fuel + 1, '$' :: '{' :: cs => match Reference.take? cs with
    | some (r, rest) => (meaning r).toList ++ fillIn meaning fuel rest
    | none => '$' :: fillIn meaning fuel ('{' :: cs)
  | fuel + 1, c :: cs => c :: fillIn meaning fuel cs

/-- What a reference stands for behind the given assignments, the latest one first. A variable of
the process goes before one of the file. -/
def Variables.meaning (env : Variables) (before : List Assignment) (r : Reference) : String :=
  match env.lookup r.name, before.lookup r.name with
  | some value, _ => value
  | none, some value => value.getD ""
  | none, none => r.standIn

/-- Replaces the references in assignments that follow others; those come the latest first. -/
def Variables.fillFrom (env : Variables) (before : List Assignment) :
    List Assignment → List Assignment
  | [] => []
  | (name, value) :: rest =>
    let filled (s : String) : String :=
      String.ofList (fillIn (env.meaning before) s.length s.toList)
    let a := (name, value.map filled)
    a :: env.fillFrom (a :: before) rest

/-- Replaces the references in all values. One sees the assignments in front of it only. -/
def Variables.fill (env : Variables) (assignments : List Assignment) : List Assignment :=
  env.fillFrom [] assignments

end TradingSignals
