import SourceReport.Command.Run

namespace SourceReport.Command

def failureReason : IO.Error → List Char
  | .permissionDenied .. => "Permission denied".toList
  | e => (toString e).toList

/-- What a path leads to, but for the files in a folder. -/
def findInput (path : String) : IO Input := do
  try
    return .file (.bytes (← IO.FS.readBinFile path).toList)
  catch
    | .inappropriateType none _ _ => return .folder []
    | .inappropriateType .. | .invalidArgument .. | .noFileOrDirectory .. => return .missing
    | e => return .file (.refused (failureReason e))

def findFiles (folder : String) (names : List String) : IO (List (List Char × Reading)) := do
  let mut files := []
  for name in names do
    let path := entryPath folder.toList name.toList
    if let .file reading ← findInput (String.ofList path) then
      files := files ++ [(name.toList, reading)]
  return files

def environmentNames : List String :=
  ["NO_COLOR", "FORCE_COLOR", "CUSTOM_ERROR_ASCII", "CUSTOM_ERROR_COLUMNS"]

def readEnvironment : IO Environment :=
  environmentNames.filterMapM fun name => do
    return (← IO.getEnv name).map fun value => (name.toList, value.toList)

def readInput (arguments : List (List Char)) : IO Input := do
  match Arguments.read arguments with
  | .error _ => return .missing
  | .ok a =>
    let path := String.ofList (a.input.getD [])
    match ← findInput path with
    | .folder _ =>
      let listing := (← (← IO.getStdin).readToEnd).toList
      let names := (Text.splitLines listing).map String.ofList
      return .folder (← findFiles path (names.filter (!·.isEmpty)))
    | found => return found

/-- Runs the command, writes what it leaves behind and gives its exit code. -/
def execute (arguments : List (List Char)) : IO UInt32 := do
  let input ← readInput arguments
  match run arguments (fun _ => input) (← readEnvironment) with
  | .ok outcome =>
    IO.eprint (String.ofList outcome.errorOutput)
    IO.print (String.ofList outcome.output)
    return outcome.exitCode.toUInt32
  | .error e =>
    IO.eprintln (String.ofList e.message)
    return 1

end SourceReport.Command

def main (arguments : List String) : IO UInt32 :=
  SourceReport.Command.execute (arguments.map (·.toList))
