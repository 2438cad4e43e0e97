import TilePuzzle.Url.Basic
import TilePuzzle.Utf8

namespace TilePuzzle.Http.Uri

def maxLength : Nat := 65534

def isSchemeChar (c : Char) : Bool :=
  c.isAlphanum || c ∈ ['+', '-', '.']

def isAuthorityChar (c : Char) : Bool :=
  c.isAlphanum || c ∈ "-._~!$&'()*+,;=".toList

def isPathChar (c : Char) : Bool :=
  '!' ≤ c && c ∉ ['<', '>', '\x60']

def isQueryChar (c : Char) : Bool :=
  '!' ≤ c && c ∉ ['"', '<', '>']

def endsAuthority (c : Char) : Bool :=
  c ∈ ['/', '?', '#']

/-- What was seen of an authority. Colons and percent signs are forgotten behind user information
and behind an address in brackets, where they may stand. -/
structure Seen where
  colons : Nat := 0
  opened : Bool := false
  closed : Bool := false
  percent : Bool := false
  deriving Repr, DecidableEq

def Seen.step? (s : Seen) (c : Char) : Option Seen :=
  if c = ':' then if s.colons < 8 then some { s with colons := s.colons + 1 } else none
  else if c = '[' then if s.percent || s.opened then none else some { s with opened := true }
  else if c = ']' then
    if s.opened && !s.closed then some { s with colons := 0, closed := true, percent := false }
    else none
  else if c = '@' then some { s with colons := 0, percent := false }
  else if c = '%' then some { s with percent := true }
  else if isAuthorityChar c then some s
  else none

def isAuthority (cs : List Char) : Bool :=
  cs.getLast? ≠ some '@' &&
    (cs.foldlM Seen.step? {}).any fun s => s.opened = s.closed && s.colons ≤ 1 && !s.percent

def isQuery (cs : List Char) : Bool :=
  (cs.takeWhile (· ≠ '#')).all isQueryChar

def isPathAndQuery (cs : List Char) : Bool :=
  let path := cs.takeWhile fun c => c ≠ '?' && c ≠ '#'
  path.all isPathChar && match cs.drop path.length with
    | '?' :: query => isQuery query
    | _ => true

/-- An absolute text names an authority; one without a scheme is an authority. -/
def isText (cs : List Char) : Bool :=
  let scheme := cs.takeWhile isSchemeChar
  match cs.drop scheme.length with
  | ':' :: '/' :: '/' :: rest =>
    let authority := rest.takeWhile (!endsAuthority ·)
    scheme.length ≤ 64 && authority ≠ [] && isAuthority authority &&
      isPathAndQuery (rest.drop authority.length)
  | _ => !cs.any endsAuthority && isAuthority cs

end Uri

def isUri (url : Url) : Bool :=
  Utf8.byteLength url.render ≤ Uri.maxLength && Uri.isText url.render

end TilePuzzle.Http
