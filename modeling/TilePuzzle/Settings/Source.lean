import TilePuzzle.Settings.File
import TilePuzzle.Utf8

namespace TilePuzzle.Settings

inductive Source
  | missing
  | beneathFile
  | directory
  | file (bytes : List UInt8)
  deriving Repr, DecidableEq

namespace Source

def isPresent : Source → Bool
  | directory | file _ => true
  | missing | beneathFile => false

def text : Source → Except SettingsError String
  | missing => .error (.unreadable "No such file or directory (os error 2)")
  | beneathFile => .error (.unreadable "Not a directory (os error 20)")
  | directory => .error (.unreadable "Is a directory (os error 21)")
  | file bytes =>
    match Utf8.decode bytes with
    | .ok cs => .ok (String.ofList cs)
    | .error _ => .error (.unreadable "stream did not contain valid UTF-8")

def settings (s : Source) : Except SettingsError Settings :=
  match s.text with
  | .ok text => Settings.ofFile text
  | .error e => .error e

end Source

def usualPaths : List String :=
  ["solver.toml", "config/solver.toml"]

def selectPath? (sources : String → Source) (named : Option String) : Option String :=
  match named with
  | some path => some path
  | none => usualPaths.find? fun path => (sources path).isPresent

/-- The settings at the path to be read, or the defaults. -/
def load (sources : String → Source) (named : Option String) : Except SettingsError Settings :=
  match selectPath? sources named with
  | some path => (sources path).settings
  | none => .ok {}

end TilePuzzle.Settings
