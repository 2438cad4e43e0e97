import TilePuzzle.Http.Message

namespace TilePuzzle.Http

structure Cookie where
  pair : Pair
  host : List Char
  path : List Char
  forSubdomains : Bool := false
  secureOnly : Bool := false
  deriving Repr, DecidableEq

namespace Cookie

def hostOf (url : Url) : List Char :=
  match url.host with
  | some host => host.render
  | none => []

def directory (url : Url) : List Char :=
  match (url.path.render.reverse.dropWhile (· ≠ '/')).drop 1 with
  | [] => ['/']
  | cs => cs.reverse

def isWithin (host domain : List Char) : Bool :=
  host = domain || ('.' :: domain).isSuffixOf host

def covers (path other : List Char) : Bool :=
  path = other || path.isPrefixOf other &&
    (path.getLast? = some '/' || (other.drop path.length).head? = some '/')

def isFor (c : Cookie) (url : Url) : Bool :=
  let host := hostOf url
  (if c.forSubdomains then isWithin host c.host else host = c.host) &&
    covers c.path url.path.render && (!c.secureOnly || url.scheme = "https".toList)

def splitPair (part : List Char) : List Char × Option (List Char) :=
  match part.dropWhile (· ≠ '=') with
  | _ :: value => (Text.trim (part.takeWhile (· ≠ '=')), some (Text.trim value))
  | [] => (Text.trim part, none)

def attributes (parts : List (List Char)) : List (List Char × List Char) :=
  parts.map fun part =>
    let (name, value) := splitPair part
    (name.map Char.toLower, value.getD [])

def attribute? (name : String) (parts : List (List Char)) : Option (List Char) :=
  ((attributes parts).find? (·.1 = name.toList)).map (·.2)

def isExpired (parts : List (List Char)) : Bool :=
  match (attribute? "max-age" parts).bind Decimal.int? with
  | some secs => secs ≤ 0
  | none => false

def ofHeader? (url : Url) (header : String) : Option (Cookie × Bool) :=
  match header.toList.splitOn ';' with
  | [] => none
  | first :: parts =>
    match splitPair first with
    | (name, some value) =>
      if name = [] then none
      else
        let host := hostOf url
        let domain := ((attribute? "domain" parts).map fun d =>
          ((if d.head? = some '.' then d.drop 1 else d).map Char.toLower)).filter (· ≠ [])
        let path := match attribute? "path" parts with
          | some ('/' :: cs) => '/' :: cs
          | _ => directory url
        if (domain.map fun d => isWithin host d).getD true then
          some ({
            pair := ⟨String.ofList name, String.ofList value⟩
            host := domain.getD host
            path
            forSubdomains := domain.isSome
            secureOnly := (attribute? "secure" parts).isSome }, isExpired parts)
        else none
    | (_, none) => none

def replaces (c d : Cookie) : Bool :=
  c.pair.name = d.pair.name && c.host = d.host && c.path = d.path

end Cookie

/-- Cookies in the order in which they were first handed out. -/
abbrev Jar := List Cookie

namespace Jar

def put (jar : Jar) (c : Cookie) : Jar :=
  if jar.any c.replaces then jar.map fun d => if c.replaces d then c else d else jar ++ [c]

def receive (jar : Jar) (url : Url) (r : Response) : Jar :=
  (r.header "set-cookie").foldl (fun jar header =>
    match Cookie.ofHeader? url header with
    | some (c, true) => jar.filter fun d => !c.replaces d
    | some (c, false) => put jar c
    | none => jar) jar

def pairs (jar : Jar) (url : Url) : List Pair :=
  (jar.filter (Cookie.isFor · url)).map Cookie.pair

end Jar

end TilePuzzle.Http
