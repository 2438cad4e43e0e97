import TilePuzzle.Url.Form
import TilePuzzle.Url.Host
import TilePuzzle.Url.Path

namespace TilePuzzle

namespace Url

/-- What stands between the two slashes and the path. User name and password are escaped; an empty
one is absent. -/
structure Authority where
  username : List Char := []
  password : List Char := []
  host : Host
  port : Option Nat := none
  deriving Repr, DecidableEq

namespace Authority

def credentials (a : Authority) : List Char :=
  let password := if a.password = [] then [] else ':' :: a.password
  if a.username = [] && a.password = [] then [] else a.username ++ password ++ ['@']

def render (a : Authority) : List Char :=
  let port := match a.port with
    | some port => ':' :: Decimal.digits port
    | none => []
  a.credentials ++ a.host.render ++ port

end Authority

end Url

structure Url where
  scheme : List Char
  authority : Option Url.Authority
  path : Url.Path
  query : Option (List Char) := none
  fragment : Option (List Char) := none
  deriving Repr, DecidableEq

namespace Url

def kind (u : Url) : SchemeKind :=
  .ofScheme u.scheme

def isWebPage (u : Url) : Bool :=
  u.scheme = "http".toList || u.scheme = "https".toList

def host (u : Url) : Option Host :=
  u.authority.map Authority.host

def port (u : Url) : Option Nat :=
  u.authority.bind Authority.port

/-- A path that would read as an authority is set off by a dot. -/
def renderPath (u : Url) : List Char :=
  match u.authority, u.path with
  | none, .segments ([] :: s :: ss) => ['/', '.'] ++ (Path.segments ([] :: s :: ss)).render
  | _, path => path.render

def render (u : Url) : List Char :=
  let authority := match u.authority with
    | some a => ['/', '/'] ++ a.render
    | none => []
  let query := match u.query with
    | some q => '?' :: q
    | none => []
  let fragment := match u.fragment with
    | some f => '#' :: f
    | none => []
  u.scheme ++ ':' :: authority ++ u.renderPath ++ query ++ fragment

instance : ToString Url := ⟨fun u => String.ofList u.render⟩

def appendPairs (u : Url) (pairs : List (List Char × List Char)) : Url :=
  { u with query := some (pairs.foldl Form.append (u.query.getD [])) }

end Url

end TilePuzzle
