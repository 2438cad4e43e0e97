import TilePuzzle.Http.Cookie
import TilePuzzle.Log
import TilePuzzle.Utf8

namespace TilePuzzle.Http

structure Exchange where
  request : Request
  response : Option Response
  deriving Repr, DecidableEq

structure Visit where
  userAgent : String
  jar : Jar := []
  exchanges : List Exchange := []
  records : List Log.Record := []
  deriving Repr, DecidableEq

structure Page where
  url : Url
  text : String
  deriving Repr, DecidableEq

/-- A URL as it is sent: credentials travel apart from it. -/
def withoutCredentials (url : Url) : Url :=
  { url with authority := url.authority.map fun a => { a with username := [], password := [] } }

namespace Visit

def start (userAgent : String) : Except Fault Visit :=
  if isHeaderValue userAgent then .ok { userAgent } else .error .userAgent

def requests (v : Visit) : List Request :=
  v.exchanges.map Exchange.request

def note (v : Visit) (level : Log.Level) (message : String) : Visit :=
  { v with records := v.records ++ [{ part := .scraper, level, message }] }

def send (server : Server) (v : Visit) (url : Url) : Option Response × Visit :=
  let request := { url, userAgent := v.userAgent, cookies := v.jar.pairs url }
  let response := server (v.requests ++ [request])
  let jar := match response with
    | some r => v.jar.receive url r
    | none => v.jar
  (response, { v with jar, exchanges := v.exchanges ++ [⟨request, response⟩] })

/-- Sends a request and follows up to `hops` redirects. -/
def follow (server : Server) (hops : Nat) (v : Visit) (url : Url) : Except Fault Page × Visit :=
  if !isSendable url then (.error (.unsendable url), v)
  else match v.send server url with
    | (none, v) => (.error (.unreachable url), v)
    | (some r, v) =>
      match r.redirect? url with
      | none =>
        if r.isError then (.error (.status r.status r.reason url), v)
        else if !r.complete then (.error .body, v)
        else (.ok ⟨url, String.ofList (Utf8.decodeLossy r.body)⟩, v)
      | some target =>
        match hops with
        | 0 => (.error (.tooManyRedirects url), v)
        | hops + 1 => follow server hops v target

def maxRedirects : Nat := 10

def get (server : Server) (v : Visit) (url : Url) : Except Fault Page × Visit :=
  (v.note .debug "GET").follow server maxRedirects (withoutCredentials url)

end Visit

end TilePuzzle.Http
