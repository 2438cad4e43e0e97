import TilePuzzle.Text.Ranges

namespace TilePuzzle.Text

/-- The code points `first, first + stride, …, last` and the image of the first. -/
structure Run where
  first : Nat
  last : Nat
  stride : Nat
  constant : Bool
  image : List Nat

namespace Run

def single (entry : List Char) (image : List Nat) : Run :=
  ⟨hexValue entry, hexValue entry, 1, true, image⟩

/-- Reads `first-last>image` for a run without gaps, `first/last>image` for every second code point,
`first=last>image` for a run with one image and `first>image` for a single code point. The code
points of an image are set off by dots. -/
def ofEntry (entry : List Char) : Run :=
  let source := entry.takeWhile (· ≠ '>')
  let image := ((entry.drop (source.length + 1)).splitOnP (· = '.')).map hexValue
  match source.splitOnP (· = '-'), source.splitOnP (· = '/'), source.splitOnP (· = '=') with
  | [lo, hi], _, _ => ⟨hexValue lo, hexValue hi, 1, false, image⟩
  | _, [lo, hi], _ => ⟨hexValue lo, hexValue hi, 2, false, image⟩
  | _, _, [lo, hi] => ⟨hexValue lo, hexValue hi, 1, true, image⟩
  | _, _, _ => single source image

def image? (run : Run) (n : Nat) : Option (List Nat) :=
  if run.first ≤ n && n ≤ run.last && (n - run.first) % run.stride == 0 then
    some (if run.constant then run.image else run.image.map (· + (n - run.first)))
  else none

end Run

structure Mapping where
  runs : List Run

namespace Mapping

def ofTable (table : String) : Mapping where
  runs := (tableEntries table).map .ofEntry

def image? (m : Mapping) (c : Char) : Option (List Nat) :=
  m.runs.findSome? (·.image? c.toNat)

end Mapping

end TilePuzzle.Text
