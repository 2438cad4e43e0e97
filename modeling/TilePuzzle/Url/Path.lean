import TilePuzzle.Url.Percent

namespace TilePuzzle.Url

/-- How a scheme reads its URLs: as names of files, as addresses of the web with a port by default,
or in the general way. -/
inductive SchemeKind
  | file
  | web (port : Nat)
  | general
  deriving Repr, DecidableEq

def webPorts : List (List Char × Nat) :=
  [("http".toList, 80), ("https".toList, 443), ("ws".toList, 80), ("wss".toList, 443),
    ("ftp".toList, 21)]

namespace SchemeKind

def ofScheme (scheme : List Char) : SchemeKind :=
  if scheme = "file".toList then .file
  else match webPorts.find? (·.1 = scheme) with
    | some (_, port) => .web port
    | none => .general

def isSpecial (k : SchemeKind) : Bool :=
  k ≠ .general

def isSlash (k : SchemeKind) (c : Char) : Bool :=
  c = '/' || (k.isSpecial && c = '\\')

end SchemeKind

inductive Path
  | plain (cs : List Char)
  | segments (ss : List (List Char))
  deriving Repr, DecidableEq

namespace Path

def render : Path → List Char
  | plain cs => cs
  | segments ss => ss.flatMap ('/' :: ·)

def isDriveLetter : List Char → Bool
  | [c, d] => c.isAlpha && (d = ':' || d = '|')
  | _ => false

def isNormalDriveLetter (s : List Char) : Bool :=
  isDriveLetter s && s.getLast? = some ':'

def isSingleDot (s : List Char) : Bool :=
  s = ".".toList || s.map Char.toLower = "%2e".toList

def isDoubleDot (s : List Char) : Bool :=
  let t := s.map Char.toLower
  t = "..".toList || t = ".%2e".toList || t = "%2e.".toList || t = "%2e%2e".toList

/-- Drops the last segment; a drive letter stays. -/
def shorten (ss : List (List Char)) : List (List Char) :=
  match ss.getLast? with
  | none => []
  | some s => if isDriveLetter s then ss else ss.dropLast

/-- Adds an escaped segment that is no dot segment. The first segment of a file's path may be a
drive letter, which is normalised and set apart from text that follows it directly. -/
def addName (k : SchemeKind) (ss : List (List Char)) (s : List Char) : List (List Char) :=
  if k = .file && ss = [] then
    if isDriveLetter s then [[s.headD ' ', ':']]
    else if 2 < s.length && isNormalDriveLetter (s.take 2) then [s.take 2, s.drop 2]
    else [s]
  else ss ++ [s]

def add (k : SchemeKind) (last : Bool) (ss : List (List Char)) (text : List Char) :
    List (List Char) :=
  let s := Percent.encode Percent.inPath text
  if isDoubleDot s then if last then shorten ss ++ [[]] else shorten ss
  else if isSingleDot s then if last then ss ++ [[]] else ss
  else addName k ss s

def addAll (k : SchemeKind) : List (List Char) → List (List Char) → List (List Char)
  | ss, [] => ss
  | ss, [text] => add k true ss text
  | ss, text :: texts => addAll k (add k false ss text) texts

def strip (k : SchemeKind) (ss : List (List Char)) : List (List Char) :=
  if k = .file then
    match ss.dropWhile (· = []) with
    | [] => [[]]
    | ss => ss
  else ss

def walk (k : SchemeKind) (ss : List (List Char)) (text : List Char) : List (List Char) :=
  strip k (addAll k ss (text.splitOnP k.isSlash))

end Path

end TilePuzzle.Url
