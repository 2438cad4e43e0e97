import TilePuzzle.CommandLine.Execute
import TilePuzzle.Log.Line

namespace TilePuzzle.Program

open Settings

def readSource (path : String) : IO Source := do
  try
    return .file (← IO.FS.readBinFile path).toList
  catch
    | .noFileOrDirectory .. => return .missing
    | .inappropriateType _ code _ => return if code = 21 then .directory else .beneathFile
    | _ => return .missing

def readSources (args : List String) : IO (List (String × Source)) := do
  let named := match CommandLine.parse args with
    | .ok arguments => arguments.settingsPath
    | .error _ => none
  let paths := match named with
    | some path => [path]
    | none => usualPaths
  paths.mapM fun path => return (path, ← readSource path)

def readEnvironment (names : List String) : IO Environment := do
  let values ← names.mapM fun name => return (name, ← IO.getEnv name)
  return values.filterMap fun (name, value) => value.map (name, ·)

def variableNames : List String :=
  ["LOG_LEVEL", "LOG_FORMAT", "LOG_SPANS", "RUST_LOG", "CHALLENGE_DISPLAY_NAME"]

/-- The variable that settings name for the URL of the channel. -/
def channelVariable (sources : List (String × Source)) : List String :=
  (sources.filterMap fun (_, source) =>
    source.settings.toOption.bind fun s => s.channel.bind (·.urlVariable))

def lookup (sources : List (String × Source)) (path : String) : Source :=
  ((sources.find? (·.1 = path)).map (·.2)).getD .missing

def run (args : List String) : IO UInt32 := do
  let sources ← readSources args
  let env ← readEnvironment (variableNames ++ channelVariable sources)
  let report := CommandLine.execute { args, env, sources := lookup sources }
  for r in report.records do
    IO.eprintln (r.line report.log.format)
  IO.print report.output
  return UInt32.ofNat report.code

end TilePuzzle.Program

def main (args : List String) : IO UInt32 :=
  TilePuzzle.Program.run args
