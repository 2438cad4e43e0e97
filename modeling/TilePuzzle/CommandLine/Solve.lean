import TilePuzzle.Scrape
import TilePuzzle.Session.Narration

namespace TilePuzzle

structure Network where
  server : Http.Server
  peer : String → Socket.Handshake

def Network.unreachable : Network where
  server _ := none
  peer _ := .failed .refused

namespace CommandLine

inductive Result
  | ok
  | error (e : SolverError)
  | waiting
  deriving Repr, DecidableEq

/-- What a command leaves behind: its result, the lines that it prints, its log, its exchanges with
the site, the channel it called and the frames it sent there. -/
structure Trace where
  result : Result
  lines : List String := []
  records : List Log.Record := []
  exchanges : List Http.Exchange := []
  called : Option String := none
  sent : List String := []

def note (level : Log.Level) (message : String) : Log.Record :=
  { part := .program, level, message }

/-- Puts another name in place of the one in the settings; the result is checked again. -/
def override (s : Settings) : Option String → Except SolverError Settings
  | none => .ok s
  | some name =>
    let s := { s with site := { s.site with displayName := name } }
    match s.check with
    | .error fault => .error (.settings (.invalid fault))
    | .ok () => .ok s

def startVisit (slug : String) (client : Settings.Client) : Except SolverError Http.Visit :=
  match Scrape.visit? slug client with
  | .error e => .error e
  | .ok none => .error (.unknownScraper slug)
  | .ok (some v) => .ok v

def pageLine (text : String) : String :=
  if text.isEmpty then "Nothing was scraped. Sorry." else s!"The scraped output is [{text}]"

def resultLine : Option String → String
  | some value => s!"Submitted result [{value}]"
  | none => "No result was submitted."

def answerFrames (peer : String → Socket.Handshake) (env : Environment)
    (channel : Settings.Channel) : Trace :=
  match channel.resolveUrl env with
  | .error e => { result := .error (.settings e) }
  | .ok url =>
    let records := Socket.connectRecords peer url
    let called := some url
    match Socket.connect peer url channel.connectTimeoutSecs with
    | .error e => { result := .error (.channel e), records, called }
    | .ok s =>
      -- Without a limit to the time it waits, a session goes on for as long as its peer does.
      let endless := channel.idleTimeoutSecs.isNone && Session.waits { channel := s }
      let (outcome, s') := Session.run s
      let records := records ++ Session.records s endless
      let sent := s'.sent
      if endless then { result := .waiting, records, called, sent }
      else match outcome with
        | .error e => { result := .error (.channel e), records, called, sent }
        | .ok o => { result := .ok, lines := [resultLine o.resultValue], records, called, sent }

def afterScrape (peer : String → Socket.Handshake) (env : Environment)
    (channel : Option Settings.Channel) : Trace :=
  match channel with
  | some channel => answerFrames peer env channel
  | none =>
    { result := .ok
      records := [note .info "No frame channel configured, stopping after submission"] }

def solve (network : Network) (env : Environment) (settings : Settings) (slug : String)
    (name : Option String) : Trace :=
  match override settings name with
  | .error e => { result := .error e }
  | .ok s =>
    match startVisit slug s.client with
    | .error e => { result := .error e }
    | .ok v =>
      let (outcome, v) := Scrape.run network.server s.site v
      let records := Scrape.span.around v.records
      match outcome with
      | .error e => { result := .error e, records, exchanges := v.exchanges }
      | .ok o =>
        let after := afterScrape network.peer env s.channel
        { after with
          lines := pageLine o.page.text :: after.lines
          records := records ++ note .info "Scrape complete" :: after.records
          exchanges := v.exchanges }

end CommandLine

end TilePuzzle
