import TilePuzzle.Http.Visit
import TilePuzzle.Page
import TilePuzzle.Settings.Basic

namespace TilePuzzle

inductive ScrapeError
  | http (fault : Http.Fault)
  | invalidUrl (e : UrlError)
  | tiles (e : Page.TileError)
  deriving Repr, DecidableEq

def ScrapeError.message : ScrapeError → String
  | .http fault => "HTTP request failed: " ++ fault.message
  | .invalidUrl e => "Invalid URL: " ++ e.message
  | .tiles e => e.message

inductive SolverError
  | settings (e : SettingsError)
  | derive (e : DeriveError)
  | scrape (e : ScrapeError)
  | channel (e : ChannelError)
  | unknownScraper (slug : String)
  | invalidInput (text : String)
  | internal (text : String)
  deriving Repr, DecidableEq

def SolverError.message : SolverError → String
  | .settings e => "Configuration error: " ++ e.message
  | .derive e => "Answer derivation failed: " ++ e.message
  | .scrape e => "Scrape failed: " ++ e.message
  | .channel e => "Frame channel error: " ++ e.message
  | .unknownScraper slug => s!"No scraper registered for slug '{slug}'"
  | .invalidInput text => "Invalid input: " ++ text
  | .internal text => "Internal error: " ++ text

namespace Scrape

open Http

structure Submission where
  url : String
  text : String
  deriving Repr, DecidableEq

structure Outcome where
  tiles : List Tile
  answer : String
  page : Submission
  deriving Repr, DecidableEq

def slug : String := "challenge"

/-- Tells whether a text names the scraper; white space around it and letter case do not matter. -/
def isRegistered (text : String) : Bool :=
  Text.lower (Text.trim text.toList) = slug.toList

def visit? (text : String) (client : Settings.Client) : Except SolverError (Option Visit) :=
  if isRegistered text then
    match Visit.start client.userAgent with
    | .ok v => .ok (some v)
    | .error fault => .error (.scrape (.http fault))
  else .ok none

def getPage (server : Server) (v : Visit) (url : Except UrlError Url) :
    Except ScrapeError Http.Page × Visit :=
  match url with
  | .error e => (.error (.invalidUrl e), v)
  | .ok url =>
    match v.get server url with
    | (.error fault, v) => (.error (.http fault), v)
    | (.ok page, v) => (.ok page, v)

def fetchTiles (server : Server) (site : Settings.Site) (v : Visit) :
    Except ScrapeError (List Tile) × Visit :=
  match getPage server v (site.endpoint site.startPath) with
  | (.error e, v) => (.error e, v)
  | (.ok page, v) =>
    match Page.tiles page.text site.tileClass site.tokenAttribute with
    | .error e => (.error (.tiles e), v)
    | .ok tiles => (.ok tiles, v.note .info "Extracted tiles")

def submit (server : Server) (site : Settings.Site) (answer : String) (v : Visit) :
    Except ScrapeError Submission × Visit :=
  match getPage server v (site.submissionUrl answer) with
  | (.error e, v) => (.error e, v)
  | (.ok page, v) => (.ok ⟨toString page.url, Page.text page.text⟩, v)

def answerTiles (server : Server) (site : Settings.Site) (tiles : List Tile) (v : Visit) :
    Except SolverError Outcome × Visit :=
  match Derivation.ofTiles tiles with
  | .error e => (.error (.derive e), v)
  | .ok d =>
    match submit server site d.answer (v.note .info "Derived answer") with
    | (.error e, v) => (.error (.scrape e), v)
    | (.ok page, v) => (.ok ⟨tiles, d.answer, page⟩, v.note .info "Answer submitted")

def run (server : Server) (site : Settings.Site) (v : Visit) :
    Except SolverError Outcome × Visit :=
  match fetchTiles server site v with
  | (.error e, v) => (.error (.scrape e), v)
  | (.ok tiles, v) => answerTiles server site tiles v

def span : Log.Span := ⟨.scraper, .info, "scrape"⟩

end Scrape

end TilePuzzle
