namespace TilePuzzle.Text

def hexValue (ds : List Char) : Nat :=
  ds.foldl (fun n d => 16 * n + if d.isDigit then d.toNat - 48 else d.toNat - 87) 0

def tableEntries (table : String) : List (List Char) :=
  (table.toList.splitOnP fun c => c = ' ' || c = '\n').filter (· ≠ [])

structure Ranges where
  bounds : List (Nat × Nat)

namespace Ranges

/-- Reads entries `lo-hi` or `lo`, with bounds in lower-case hexadecimal. -/
def ofTable (table : String) : Ranges where
  bounds := (tableEntries table).map fun entry =>
    match entry.splitOnP (· = '-') with
    | [lo, hi] => (hexValue lo, hexValue hi)
    | _ => (hexValue entry, hexValue entry)

def contains (r : Ranges) (c : Char) : Bool :=
  r.bounds.any fun (lo, hi) => lo ≤ c.toNat && c.toNat ≤ hi

end Ranges

end TilePuzzle.Text
