import TilePuzzle.Http.Uri
import TilePuzzle.Text.Space
import TilePuzzle.Url.Parse

namespace TilePuzzle.Http

structure Pair where
  name : String
  value : String
  deriving Repr, DecidableEq

structure Request where
  url : Url
  userAgent : String
  cookies : List Pair := []
  deriving Repr, DecidableEq

structure Response where
  status : Nat
  reason : String
  headers : List (String × String) := []
  body : List UInt8 := []
  /-- The whole body arrives. -/
  complete : Bool := true
  deriving Repr, DecidableEq

namespace Response

def header (r : Response) (name : String) : List String :=
  (r.headers.filter fun h => h.1.toList.map Char.toLower = name.toList.map Char.toLower).map (·.2)

/-- The URL that a response sends its reader on to. A location of which no such URL can be made
counts for nothing. -/
def redirect? (r : Response) (url : Url) : Option Url :=
  if r.status ∈ [301, 302, 303, 307, 308] then
    match r.header "location" with
    | target :: _ => (url.join target).toOption.filter isUri
    | [] => none
  else none

/-- Tells whether the status is that of an error. Those beyond 599 are not. -/
def isError (r : Response) : Bool :=
  400 ≤ r.status && r.status < 600

end Response

/-- A server's answer to the last of the requests so far; `none` if it cannot be reached. -/
abbrev Server := List Request → Option Response

inductive Fault
  | userAgent
  | unsendable (url : Url)
  | unreachable (url : Url)
  | tooManyRedirects (url : Url)
  | status (code : Nat) (reason : String) (url : Url)
  | body
  deriving Repr, DecidableEq

def Fault.message : Fault → String
  | .userAgent => "builder error"
  | .unsendable url => s!"builder error for url ({url})"
  | .unreachable url => s!"error sending request for url ({url})"
  | .tooManyRedirects url => s!"error following redirect for url ({url})"
  | .status code reason url =>
    let side := if code < 500 then "client" else "server"
    s!"HTTP status {side} error ({code} {reason}) for url ({url})"
  | .body => "error decoding response body"

def isHeaderValue (text : String) : Bool :=
  text.toList.all fun c => c = '\t' || (0x20 ≤ c.toNat && c.toNat ≠ 0x7f)

def isSendable (url : Url) : Bool :=
  url.isWebPage && isUri url

end TilePuzzle.Http
