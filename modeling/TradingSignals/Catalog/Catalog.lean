import TradingSignals.Catalog.Capability
import TradingSignals.Text.Lowercase

namespace TradingSignals

/-- The capabilities a strategy may use. Both tables are keyed by small letters: `byId` in
registration order, `byAlias` with the id of every capability that declared the alias. -/
structure Catalog where
  byId : List (String × Capability)
  byAlias : List (String × String)

namespace Catalog

def empty : Catalog := ⟨[], []⟩

/-- Adds a capability. A repeated id keeps its place and takes the new definition; an alias
goes behind the earlier ones. -/
def register (catalog : Catalog) (c : Capability) : Catalog where
  byId := putField catalog.byId (lowercase c.id) c
  byAlias := catalog.byAlias ++ c.aliases.map fun a => (lowercase a, c.id)

def ofList (cs : List Capability) : Catalog := cs.foldl register empty

/-- The capability with an id in any case, else the one that declared the alias first. -/
def lookup (catalog : Catalog) (id : String) : Option Capability :=
  match catalog.byId.lookup (lowercase id) with
  | some c => some c
  | none =>
    (catalog.byAlias.lookup (lowercase id)).bind fun id => catalog.byId.lookup (lowercase id)

/-- All capabilities in registration order. -/
def toList (catalog : Catalog) : List Capability := catalog.byId.map (·.2)

def size (catalog : Catalog) : Nat := catalog.byId.length

end Catalog

/-- Whether one text occurs in another. -/
def occursIn (needle : List Char) : List Char → Bool
  | [] => needle.isEmpty
  | c :: cs => needle.isPrefixOf (c :: cs) || occursIn needle cs

/-- Whether the name or an alias contains the pattern, in any case. -/
def Capability.mentions (c : Capability) (pattern : String) : Bool :=
  let needle := (lowercase pattern).toList
  (c.name :: c.aliases).any fun s => occursIn needle (lowercase s).toList

/-- By category, then by name. -/
def Capability.comesBefore (a b : Capability) : Bool :=
  a.category < b.category || (a.category == b.category && !decide (b.name < a.name))

def Capability.registryLine (c : Capability) : String :=
  "- " ++ c.name ++ " (ID: " ++ c.id ++ ") - " ++ c.description

namespace Catalog

/-- The capabilities that mention a pattern, in registration order. -/
def search (catalog : Catalog) (pattern : String) : List Capability :=
  catalog.toList.filter (·.mentions pattern)

/-- The distinct categories in order. -/
def categories (catalog : Catalog) : List String :=
  (catalog.toList.map (·.category)).eraseDups.mergeSort fun a b => !decide (b < a)

/-- One line for each capability, sorted, so that the text is the same however they were
registered. -/
def registryText (catalog : Catalog) : String :=
  String.intercalate "\n" ((catalog.toList.mergeSort Capability.comesBefore).map
    Capability.registryLine)

end Catalog

end TradingSignals
