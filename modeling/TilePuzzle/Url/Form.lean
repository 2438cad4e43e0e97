import TilePuzzle.Url.Percent

namespace TilePuzzle.Url.Form

def isPlain (c : Char) : Bool :=
  c.isAlphanum || c ∈ ['*', '-', '.', '_']

def encode (cs : List Char) : List Char :=
  cs.flatMap fun c =>
    if isPlain c then [c]
    else if c = ' ' then ['+']
    else (Utf8.encode [c]).flatMap Percent.encodeByte

def encodePair (pair : List Char × List Char) : List Char :=
  encode pair.1 ++ '=' :: encode pair.2

def append (query : List Char) (pair : List Char × List Char) : List Char :=
  if query = [] then encodePair pair else query ++ '&' :: encodePair pair

def decode (cs : List Char) : List Char :=
  Utf8.decodeLossy (Percent.decode (cs.map fun c => if c = '+' then ' ' else c))

def decodePair (cs : List Char) : List Char × List Char :=
  (decode (cs.takeWhile (· ≠ '=')), decode ((cs.dropWhile (· ≠ '=')).drop 1))

/-- The pairs of a query; empty parameters are skipped. -/
def pairs (query : List Char) : List (List Char × List Char) :=
  ((query.splitOnP (· = '&')).filter (· ≠ [])).map decodePair

end TilePuzzle.Url.Form
