import TradingSignals.Environment.EnvFile
import TradingSignals.Text.Utf8

namespace TradingSignals

/-- A place in a file system: the names from its root on. -/
abbrev FilePlace := List String

/-- The regular files of a file system, with what they hold, and its directories. Links are left
out: a place is resolved before anything is looked up there. -/
structure FileTree where
  files : List (FilePlace × List UInt8)
  dirs : List FilePlace

/-- What stands at a path. -/
inductive FileState where
  | missing
  | directory
  | file (content : List UInt8)
  deriving DecidableEq

/-- The names in a path; doubled slashes and single dots mean nothing. -/
def pathNames (path : String) : List String :=
  ((path.toList.splitOn '/').map String.ofList).filter fun name => name != "" && name != "."

/-- A path in its plainest spelling. Two slashes at its start are not the same as one. -/
def plainPath (path : String) : String :=
  let root := match path.toList.takeWhile (· == '/') with
    | [] => ""
    | [_, _] => "//"
    | _ => "/"
  let names := String.intercalate "/" (pathNames path)
  if root == "" && names == "" then "." else root ++ names

/-- The directory a path starts from. -/
def pathStart (base : FilePlace) (path : String) : FilePlace :=
  if path.toList.head? = some '/' then [] else base

/-- The place that a path names where nothing on the way is a link; two dots go one up. -/
def resolvePath (base : FilePlace) (path : String) : FilePlace :=
  (pathNames path).foldl (fun p name => if name == ".." then p.dropLast else p ++ [name])
    (pathStart base path)

/-- A directory and those above it, the deepest first. -/
def FilePlace.upward (p : FilePlace) : List FilePlace :=
  (List.range (p.length + 1)).reverse.map p.take

namespace FileTree

def isFile (tree : FileTree) (p : FilePlace) : Bool := (tree.files.lookup p).isSome

/-- A directory is there when it was made, or something below it was. -/
def isDir (tree : FileTree) (p : FilePlace) : Bool :=
  p.isEmpty || tree.dirs.any p.isPrefixOf ||
    tree.files.any fun f => p.isPrefixOf f.1 && f.1 != p

def state (tree : FileTree) (p : FilePlace) : FileState :=
  match tree.files.lookup p with
  | some content => .file content
  | none => if tree.isDir p then .directory else .missing

/-- Follows names from a directory; one can only go on from a directory. -/
def follow (tree : FileTree) : FilePlace → List String → FileState
  | p, [] => tree.state p
  | p, name :: names =>
    if tree.isDir p then
      tree.follow (if name == ".." then p.dropLast else p ++ [name]) names
    else .missing

/-- What stands at a path, seen from a directory. -/
def look (tree : FileTree) (base : FilePlace) (path : String) : FileState :=
  tree.follow (pathStart base path) (pathNames path)

/-- The nearest file of variables, at or above a directory. -/
def nearestEnvFile (tree : FileTree) (start : FilePlace) : Option FilePlace :=
  (start.upward.map (· ++ [".env"])).find? tree.isFile

/-- The file to load variables from: the nearest one, else the nearest one of the program's own
directory. -/
def envFile (tree : FileTree) (start home : FilePlace) : Option FilePlace :=
  tree.nearestEnvFile start <|> tree.nearestEnvFile home

def assignmentsIn (tree : FileTree) (p : FilePlace) : Except Utf8Error (List Assignment) :=
  match tree.files.lookup p with
  | some content => EnvFile.read <$> decodeUtf8 content
  | none => .ok []

/-- Loads the file of variables, if there is one. -/
def loadEnvironment (tree : FileTree) (start home : FilePlace) (env : Variables) :
    Except Utf8Error (Option FilePlace × Variables) :=
  match tree.envFile start home with
  | some p => (fun found => (some p, env.load (env.fill found))) <$> tree.assignmentsIn p
  | none => .ok (none, env)

end FileTree

end TradingSignals
