import TilePuzzle.Url.Ipv4

namespace TilePuzzle.Url.Ipv6

def piece? (cs : List Char) : Option Nat :=
  if cs = [] || 4 < cs.length then none else Ipv4.inBase? 16 cs

def byte? (cs : List Char) : Option Nat :=
  if 1 < cs.length && cs.head? = some '0' then none
  else (Decimal.nat? cs).bind fun n => if n < 256 then some n else none

def dotted? (cs : List Char) : Option (List Nat) :=
  match (cs.splitOnP (· = '.')).mapM byte? with
  | some [a, b, c, d] => some [256 * a + b, 256 * c + d]
  | _ => none

/-- The pieces of a list of groups, of which the last may be four decimal bytes if it ends the
address. -/
def groups? (final : Bool) : List (List Char) → Option (List Nat)
  | [] => some []
  | [g] => if final && '.' ∈ g then dotted? g else (piece? g).map ([·])
  | g :: gs =>
    match piece? g, groups? final gs with
    | some p, some ps => some (p :: ps)
    | _, _ => none

def pieces? (final : Bool) (cs : List Char) : Option (List Nat) :=
  if cs = [] then some [] else groups? final (cs.splitOnP (· = ':'))

def splitGap? : List Char → Option (List Char × List Char)
  | ':' :: ':' :: cs => some ([], cs)
  | c :: cs => (splitGap? cs).map fun (before, after) => (c :: before, after)
  | [] => none

def parse? (cs : List Char) : Option (List Nat) :=
  match splitGap? cs with
  | none =>
    match pieces? true cs with
    | some ps => if ps.length = 8 then some ps else none
    | none => none
  | some (before, after) =>
    match pieces? false before, pieces? true after with
    | some ps, some qs =>
      if ps.length + qs.length ≤ 7 then
        some (ps ++ List.replicate (8 - ps.length - qs.length) 0 ++ qs)
      else none
    | _, _ => none

def zeros (ps : List Nat) : Nat :=
  (ps.takeWhile (· = 0)).length

def longestZeros : List Nat → Nat
  | [] => 0
  | p :: ps => max (zeros (p :: ps)) (longestZeros ps)

def renderPieces (ps : List Nat) : List Char :=
  ((ps.map (Nat.toDigits 16)).intersperse [':']).flatten

def renderGap (gap : Nat) (before : List Nat) : List Nat → List Char
  | [] => renderPieces before
  | p :: ps =>
    if zeros (p :: ps) = gap then
      renderPieces before ++ [':', ':'] ++ renderPieces ((p :: ps).drop gap)
    else renderGap gap (before ++ [p]) ps

/-- Hexadecimal pieces; the first of the longest runs of at least two zeros becomes two colons. -/
def render (ps : List Nat) : List Char :=
  let gap := longestZeros ps
  if gap < 2 then renderPieces ps else renderGap gap [] ps

end TilePuzzle.Url.Ipv6
