import TilePuzzle.Environment
import TilePuzzle.Text.Case
import TilePuzzle.Text.Space
import TilePuzzle.Text.Word

namespace TilePuzzle.Log

inductive Level
  | error
  | warn
  | info
  | debug
  | trace
  deriving Repr, DecidableEq

namespace Level

def all : List Level :=
  [error, warn, info, debug, trace]

def name : Level → String
  | error => "ERROR"
  | warn => "WARN"
  | info => "INFO"
  | debug => "DEBUG"
  | trace => "TRACE"

def rank : Level → Nat
  | error => 1
  | warn => 2
  | info => 3
  | debug => 4
  | trace => 5

def named? (name : List Char) : Option Level :=
  all.find? fun l => l.name.toList = name.map Char.toUpper

/-- The level that a text asks for, `info` where it names none. -/
def parse (text : String) : Level :=
  (named? (Text.trim text.toList)).getD info

def ofVerbosity? : Nat → Option Level
  | 0 => none
  | 1 => some debug
  | _ => some trace

end Level

inductive Format
  | json
  | pretty
  | compact
  deriving Repr, DecidableEq

def Format.parse (text : String) : Format :=
  let name := Text.lower (Text.trim text.toList)
  if name = "pretty".toList then pretty
  else if name = "compact".toList then compact
  else json

inductive Part
  | program
  | scraper
  | session
  | socket
  | interpreter
  deriving Repr, DecidableEq

def Part.target : Part → String
  | program => "challenge_solver"
  | scraper => "challenge_solver::scraper::challenge"
  | session => "challenge_solver::session"
  | socket => "challenge_solver::transport::websocket"
  | interpreter => "challenge_solver::interpreter"

structure Span where
  part : Part
  level : Level
  name : String
  deriving Repr, DecidableEq

structure Record where
  part : Part
  level : Level
  message : String
  spans : List Span := []
  isBoundary : Bool := false
  deriving Repr, DecidableEq

def Span.boundary (s : Span) (outer : List Span) (message : String) : Record :=
  { part := s.part, level := s.level, message, spans := s :: outer, isBoundary := true }

def Span.opening (s : Span) (records : List Record) : List Record :=
  s.boundary [] "new" :: records.map fun r => { r with spans := r.spans ++ [s] }

def Span.around (s : Span) (records : List Record) : List Record :=
  s.opening records ++ [s.boundary [] "close"]

/-- What the filter says of records of one origin: those up to a level are shown, or none. With a
span, it speaks of records inside it. -/
structure Directive where
  target : List Char := []
  span : Option (List Char) := none
  level : Option Level
  deriving Repr, DecidableEq

namespace Directive

/-- The levels by name or number; the outer `none` means that the text is neither. -/
def level? (text : List Char) : Option (Option Level) :=
  match Level.named? text with
  | some l => some (some l)
  | none =>
    if text.map Char.toLower = "off".toList || text = ['0'] then some none
    else (Level.all.find? fun l => Nat.toDigits 10 l.rank = text).map some

def isTargetChar (c : Char) : Bool :=
  Text.isWord c || c = ':' || c = '-'

def parse? (text : List Char) : Option Directive :=
  match level? text with
  | some level => some { level }
  | none =>
    let target := text.takeWhile isTargetChar
    let rest := text.dropWhile isTargetChar
    let (span, rest) := match rest with
      | '[' :: rest => if ']' ∈ rest then
          (some (rest.takeWhile (· ≠ ']')), (rest.dropWhile (· ≠ ']')).drop 1)
        else (none, '[' :: rest)
      | rest => (none, rest)
    let level := match rest with
      | [] | ['='] => some (some Level.trace)
      | '=' :: name => level? name
      | _ => none
    if target = [] && span = none then none
    else level.map fun level => { target, span, level }

def shows (d : Directive) (level : Level) : Bool :=
  match d.level with
  | some l => level.rank ≤ l.rank
  | none => false

def isAbout (d : Directive) (part : Part) : Bool :=
  d.target.isPrefixOf part.target.toList

end Directive

abbrev Filter := List Directive

namespace Filter

def parse (text : String) : Filter :=
  match ((text.toList.splitOn ',').filter (· ≠ [])).filterMap Directive.parse? with
  | [] => [{ level := some .error }]
  | ds => ds

/-- The directive about a part with the longest target, the last one of equals. -/
def select? (filter : Filter) (part : Part) : Option Directive :=
  (filter.filter fun d => d.span = none && d.isAbout part).foldl
    (fun best d => match best with
      | some b => if b.target.length ≤ d.target.length then some d else some b
      | none => some d) none

def shows (filter : Filter) (r : Record) : Bool :=
  (filter.any fun d => d.shows r.level &&
    r.spans.any fun s => d.span = some s.name.toList && d.isAbout s.part) ||
  match filter.select? r.part with
  | some d => d.shows r.level
  | none => false

end Filter

structure Setup where
  filter : Filter := [{ level := some .info }]
  format : Format := .json
  showsSpans : Bool := false
  deriving Repr, DecidableEq

/-- The setup that the environment asks for. A level given elsewhere comes before the one in the
environment, and a filter in the environment before either. -/
def Setup.ofEnvironment (level? : Option Level) (env : Environment) : Setup :=
  let level := level?.getD (Level.parse ((env.get? "LOG_LEVEL").getD "INFO"))
  { filter := match env.get? "RUST_LOG" with
      | some text => Filter.parse text
      | none => [{ level := some level }]
    format := Format.parse ((env.get? "LOG_FORMAT").getD "json")
    showsSpans := Text.lower ((env.get? "LOG_SPANS").getD "false").toList = "true".toList }

def Setup.select (setup : Setup) (records : List Record) : List Record :=
  records.filter fun r => setup.filter.shows r && (setup.showsSpans || !r.isBoundary)

end TilePuzzle.Log
