import TilePuzzle.CommandLine.Arguments
import TilePuzzle.CommandLine.Solve
import TilePuzzle.Settings.Source

namespace TilePuzzle.CommandLine

def programName : String := "challenge-solver"

def version : String := "0.1.0"

structure Input where
  args : List String
  env : Environment := []
  sources : String → Settings.Source := fun _ => .missing
  network : Network := .unreachable

/-- What the program shows. It exits unless it waits without end. The records are those that the
filter of the log lets pass. -/
structure Report where
  exit : Option Nat
  output : String := ""
  log : Log.Setup := {}
  records : List Log.Record := []
  exchanges : List Http.Exchange := []
  sent : List String := []

/-- A program that does not end has no exit code, and zero stands in for it. -/
def Report.code (r : Report) : Nat :=
  r.exit.getD 0

def tileOfArgument (raw : String) : Except SolverError Tile :=
  match raw.toList.dropWhile (· ≠ ':') with
  | [] => .error (.invalidInput s!"tile '{raw}' must be VALUE:TOKEN")
  | _ :: token =>
    let value := raw.toList.takeWhile (· ≠ ':')
    match Decimal.word? (Text.trim value) with
    | some word => .ok ⟨word, String.ofList token⟩
    | none => .error (.invalidInput s!"tile value '{String.ofList value}' is not a number")

def tilesOfArguments : List String → Except SolverError (List Tile)
  | [] => .ok []
  | raw :: raws =>
    match tileOfArgument raw with
    | .error e => .error e
    | .ok tile => (tilesOfArguments raws).map (tile :: ·)

def deriveAnswer (raws : List String) : Except SolverError String :=
  match tilesOfArguments raws with
  | .error e => .error e
  | .ok tiles =>
    match Derivation.ofTiles tiles with
    | .error e => .error (.derive e)
    | .ok d => .ok d.answer

def showSettings (s : Settings) : Except SolverError (List String) :=
  match s.write? with
  | some text => .ok ["Current configuration:", text]
  | none => .error (.internal "Failed to render config: out-of-range value for u64 type")

def checkSettings (s : Settings) (shows : Bool) : Except SolverError (List String) :=
  match s.check with
  | .error fault => .error (.settings (.invalid fault))
  | .ok () => if shows then showSettings s else .ok []

def perform (input : Input) (s : Settings) : Command → Trace
  | .run slug name =>
    solve input.network input.env s slug (name <|> input.env.get? "CHALLENGE_DISPLAY_NAME")
  | .derive raws =>
    match deriveAnswer raws with
    | .ok answer => { result := .ok, lines := [answer] }
    | .error e => { result := .error e }
  | .config shows =>
    match checkSettings s shows with
    | .ok lines =>
      { result := .ok, lines, records := [note .info "Configuration validation complete"] }
    | .error e => { result := .error e }

def loadRecord (path : Option String) : Log.Record :=
  note .info (match path with
    | some path => s!"Loading configuration from: {path}"
    | none => "No configuration file found, using defaults")

/-- Loads the settings and performs the command. A failure is the last record of the log. -/
def trace (input : Input) (arguments : Arguments) : Trace :=
  let started := [note .info s!"Starting {programName} v{version}",
    loadRecord (Settings.selectPath? input.sources arguments.settingsPath)]
  match Settings.load input.sources arguments.settingsPath with
  | .error e =>
    let e := SolverError.settings e
    { result := .error e
      records := started ++ [note .error s!"Failed to load configuration: {e.message}"] }
  | .ok s =>
    let t := perform input s arguments.command
    let failed := match t.result with
      | .error e => [note .error s!"Command failed: {e.message}"]
      | _ => []
    { t with records := started ++ t.records ++ failed }

def usage : String :=
  s!"Usage: {programName} [-c FILE] [-v]... run SLUG [--name NAME] | derive VALUE:TOKEN... | " ++
    "config [--show]\n"

def execute (input : Input) : Report :=
  match parse input.args with
  | .error .usage => { exit := some 2 }
  | .error .help => { exit := some 0, output := usage }
  | .error .version => { exit := some 0, output := s!"{programName} {version}\n" }
  | .ok arguments =>
    let t := trace input arguments
    let log := Log.Setup.ofEnvironment (Log.Level.ofVerbosity? arguments.verbosity) input.env
    { exit := match t.result with
        | .ok => some 0
        | .error _ => some 1
        | .waiting => none
      output := String.join (t.lines.map (· ++ "\n"))
      log
      records := log.select t.records
      exchanges := t.exchanges
      sent := t.sent }

end TilePuzzle.CommandLine
