import TilePuzzle.Url.Basic

namespace TilePuzzle.Url

def clean (cs : List Char) : List Char :=
  let isBlank := fun c : Char => c.toNat ≤ 0x20
  ((cs.dropWhile isBlank).reverse.dropWhile isBlank).reverse.filter
    fun c => c ≠ '\t' && c ≠ '\n' && c ≠ '\r'

def isSchemeChar (c : Char) : Bool :=
  c.isAlphanum || c = '+' || c = '-' || c = '.'

def splitScheme? (cs : List Char) : Option (List Char × List Char) :=
  match cs with
  | [] => none
  | c :: _ =>
    if c.isAlpha then
      match cs.dropWhile isSchemeChar with
      | ':' :: rest => some ((cs.takeWhile isSchemeChar).map Char.toLower, rest)
      | _ => none
    else none

def isHier (c : Char) : Bool :=
  c ≠ '?' && c ≠ '#'

def splitTail (k : SchemeKind) (cs : List Char) : Option (List Char) × Option (List Char) :=
  let set := if k.isSpecial then Percent.inSpecialQuery else Percent.inQuery
  let fragment := fun cs : List Char => match cs with
    | '#' :: f => some (Percent.encode Percent.inFragment f)
    | _ => none
  match cs with
  | '?' :: rest =>
    (some (Percent.encode set (rest.takeWhile (· ≠ '#'))), fragment (rest.dropWhile (· ≠ '#')))
  | cs => (none, fragment cs)

def withTail (scheme : List Char) (authority : Option Authority) (path : Path) (tail : List Char) :
    Url :=
  let (query, fragment) := splitTail (.ofScheme scheme) tail
  { scheme, authority, path, query, fragment }

def splitLast? (x : Char) (cs : List Char) : Option (List Char × List Char) :=
  if x ∈ cs then
    let after := (cs.reverse.takeWhile (· ≠ x)).reverse
    some (cs.take (cs.length - after.length - 1), after)
  else none

/-- The host part of a text: all before the first colon outside brackets. -/
def hostText : (inside : Bool) → List Char → List Char
  | _, [] => []
  | inside, c :: cs =>
    if c = ':' && !inside then []
    else c :: hostText (if c = '[' then true else if c = ']' then false else inside) cs

/-- A port and the text after its digits, which must be empty or start with a backslash. The port
that the scheme has by default is left out. -/
def parsePort (k : SchemeKind) (cs : List Char) : Except UrlError (Option Nat × List Char) :=
  let ds := cs.takeWhile Char.isDigit
  let rest := cs.dropWhile Char.isDigit
  let port := Decimal.value ds
  if 65535 < port || (rest ≠ [] && rest.head? ≠ some '\\') then .error .invalidPort
  else .ok (if ds = [] || k = .web port then none else some port, rest)

def parseHostPort (k : SchemeKind) (cs : List Char) :
    Except UrlError (Host × Option Nat × List Char) := do
  let text := hostText false cs
  if k.isSpecial && text = [] then throw .emptyHost
  let host ← if k.isSpecial then Host.parseSpecial text else Host.parseOther text
  match cs.drop text.length with
  | [] => return (host, none, [])
  | _ :: rest =>
    if host.isEmpty then throw .emptyHost
    let (port, rest) ← parsePort k rest
    return (host, port, rest)

def inAuthority (k : SchemeKind) (c : Char) : Bool :=
  isHier c && !k.isSlash c

def parseCredentials (cs : List Char) : List Char × List Char :=
  let escape := Percent.encode Percent.inUserinfo
  (escape (cs.takeWhile (· ≠ ':')), escape ((cs.dropWhile (· ≠ ':')).drop 1))

def parseAuthority (k : SchemeKind) (cs : List Char) : Except UrlError (Authority × List Char) := do
  let text := cs.takeWhile (inAuthority k)
  let after := cs.dropWhile (inAuthority k)
  match splitLast? '@' text with
  | none =>
    let (host, port, rest) ← parseHostPort k text
    return ({ host, port }, rest ++ after)
  | some (user, text) =>
    if user = [] && text = [] && after ≠ [] then throw .emptyHost
    let (username, password) := parseCredentials user
    let (host, port, rest) ← parseHostPort k text
    if host.isEmpty && (username ≠ [] || password ≠ []) then throw .emptyHost
    return ({ username, password, host, port }, rest ++ after)

def parseAfterSlashes (scheme cs : List Char) : Except UrlError Url := do
  let k := SchemeKind.ofScheme scheme
  let (authority, rest) ← parseAuthority k cs
  let text := rest.takeWhile isHier
  let path := match text with
    | [] => if k.isSpecial then Path.walk k [] [] else []
    | c :: cs => Path.walk k [] (if k.isSlash c then cs else text)
  return withTail scheme authority (.segments path) (rest.dropWhile isHier)

def continuePath (scheme : List Char) (authority : Option Authority) (ss : List (List Char))
    (cs : List Char) : Url :=
  let path := Path.walk (.ofScheme scheme) ss (cs.takeWhile isHier)
  withTail scheme authority (.segments path) (cs.dropWhile isHier)

def baseSegments (u : Url) : List (List Char) :=
  match u.path with
  | .plain _ => []
  | .segments ss =>
    match ss.getLast? with
    | none => []
    | some s => if u.kind = .file && Path.isNormalDriveLetter s then ss else ss.dropLast

def resolve (base : Url) (cs : List Char) : Except UrlError Url :=
  let isSlash := fun c : Char => c = '/' || c = '\\'
  match cs with
  | [] => .ok { base with fragment := none }
  | '?' :: _ => .ok (withTail base.scheme base.authority base.path cs)
  | '#' :: _ => .ok { base with fragment := (splitTail base.kind cs).2 }
  | c :: rest =>
    if isSlash c then
      if ['/', '/'].isPrefixOf cs then parseAfterSlashes base.scheme (cs.drop 2)
      else if (rest.head?.map isSlash).getD false then
        parseAfterSlashes base.scheme (cs.dropWhile isSlash)
      else .ok (continuePath base.scheme base.authority [] rest)
    else .ok (continuePath base.scheme base.authority (baseSegments base) cs)

def fileScheme : List Char := "file".toList

def localAuthority : Authority := { host := .domain [] }

def startsWithDrive (cs : List Char) : Bool :=
  Path.isDriveLetter (cs.take 2) &&
    match cs.drop 2 with
    | [] => true
    | c :: _ => c ∈ ['/', '\\', '?', '#']

/-- Reads what follows the two slashes of a file's URL. The name of this machine is left out, and
so is any host before a drive letter. -/
def parseFileHost (cs : List Char) : Except UrlError Url := do
  let text := cs.takeWhile (inAuthority .file)
  let rest := match cs.dropWhile (inAuthority .file) with
    | c :: rest => if isHier c then rest else c :: rest
    | [] => []
  if text = [] then return continuePath fileScheme localAuthority [] rest
  if Path.isDriveLetter text then return continuePath fileScheme localAuthority [] cs
  let host ← Host.parseSpecial text
  let host := if host = .domain "localhost".toList || startsWithDrive rest then .domain [] else host
  return continuePath fileScheme (some { host }) [] rest

def parseFile (base : Option Url) (cs : List Char) : Except UrlError Url :=
  let isSlash := fun c : Char => c = '/' || c = '\\'
  match cs with
  | c :: rest =>
    if isSlash c then
      if (rest.head?.map isSlash).getD false then parseFileHost (rest.drop 1)
      else match base with
        | none => .ok (continuePath fileScheme localAuthority [] rest)
        | some base =>
          if startsWithDrive rest then .ok (continuePath fileScheme localAuthority [] rest)
          else match base.path with
            | .segments (s :: _) =>
              if Path.isNormalDriveLetter s then
                .ok (continuePath fileScheme localAuthority [s] rest)
              else .ok (continuePath fileScheme base.authority [] rest)
            | _ => .ok (continuePath fileScheme base.authority [] rest)
    else match base with
      | none => .ok (continuePath fileScheme localAuthority [] cs)
      | some base =>
        if isHier c && startsWithDrive cs then .ok (continuePath fileScheme localAuthority [] cs)
        else resolve base cs
  | [] =>
    match base with
    | none => .ok (continuePath fileScheme localAuthority [] [])
    | some base => resolve base []

def parseAbsolute (base : Option Url) (scheme cs : List Char) : Except UrlError Url :=
  match SchemeKind.ofScheme scheme with
  | .file => parseFile (base.filter (·.scheme = fileScheme)) cs
  | .web _ =>
    let isSlash := fun c : Char => c = '/' || c = '\\'
    let slashes := (cs.takeWhile isSlash).length
    match base with
    | some base =>
      if slashes < 2 && base.scheme = scheme then resolve base cs
      else parseAfterSlashes scheme (cs.drop slashes)
    | none => parseAfterSlashes scheme (cs.drop slashes)
  | .general =>
    match cs with
    | '/' :: '/' :: rest => parseAfterSlashes scheme rest
    | '/' :: rest => .ok (continuePath scheme none [] rest)
    | _ =>
      .ok (withTail scheme none (.plain (Percent.encode Percent.isControl (cs.takeWhile isHier)))
        (cs.dropWhile isHier))

def parseWith (base : Option Url) (cs : List Char) : Except UrlError Url :=
  let cs := clean cs
  match splitScheme? cs with
  | some (scheme, rest) => parseAbsolute base scheme rest
  | none =>
    match base with
    | none => .error .relativeWithoutBase
    | some base =>
      if cs.head? = some '#' then resolve base cs
      else match base.path with
        | .plain _ => .error .relativeWithPlainBase
        | .segments _ => if base.kind = .file then parseFile (some base) cs else resolve base cs

def parse (text : String) : Except UrlError Url :=
  parseWith none text.toList

def join (base : Url) (text : String) : Except UrlError Url :=
  parseWith (some base) text.toList

end TilePuzzle.Url
