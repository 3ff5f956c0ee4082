import TradingSignals.Catalog.BuiltIn
import TradingSignals.CommandLine.Command

namespace TradingSignals

namespace Program

/-- What stands at a path. Anything that is there and cannot be read counts as a directory. -/
def fileState (path : String) : IO FileState := do
  try
    return .file (← IO.FS.readBinFile path).toList
  catch
    | .noFileOrDirectory .. => return .missing
    | _ => return .directory

def envNames : List String :=
  ["OPENAI_API_KEY", "OPENAI_API_URL", "OPENAI_MODEL", "OPENAI_TIMEOUT_SECONDS"]

/-- The variables of the process that the program looks at. -/
def processVariables : IO Variables :=
  envNames.filterMapM fun name => do
    return (← IO.getEnv name).map (name, ·)

/-- The variables, with those of the nearest file added. -/
def loadedVariables : IO (Except Utf8Error Variables) := do
  let env ← processVariables
  let here := (← IO.currentDir).toString
  for directory in (FilePlace.upward (pathNames here)) do
    let path := "/" ++ String.intercalate "/" (directory ++ [".env"])
    if let .file content ← fileState path then
      return (decodeUtf8 content).map fun s => env.load (env.fill (EnvFile.read s))
  return .ok env

/-- A fault that ends the program before its answer. -/
def abort (message : String) : IO UInt32 := do
  IO.eprintln message
  return 1

/-- No connection can be made from here, so every request fails. -/
def send (_ : ChatRequest) : ChatReply := .requestFailed "no connection"

/-- No words for failures are at hand here, so only the shape that is missed is named. -/
def wording : Wording := fun shape _ => "validation error for " ++ shape

def run (args : List String) : IO UInt32 := do
  match Invocation.read args with
  | .error exit =>
    if exit = .help then IO.print (lines helpLines) else IO.eprintln usageLine
    return exit.code.toUInt32
  | .ok invocation =>
    match ← loadedVariables with
    | .error fault => abort fault.message
    | .ok env =>
      let state ← match invocation.path? with
        | some path => fileState path
        | none => pure .missing
      let drafter := (ChatEndpoint.ofVariables env).draft .builtIn send
      match invocation.run .builtIn wording (fun _ => state) drafter (timeoutSetting env).2 with
      | .error fault => abort fault.message
      | .ok result =>
        for entry in result.log do
          IO.eprintln entry.text
        IO.print result.out
        IO.eprint result.err
        return result.code.toUInt32

end Program

end TradingSignals

def main (args : List String) : IO UInt32 := TradingSignals.Program.run args
