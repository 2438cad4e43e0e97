import TilePuzzle.Utf8

namespace TilePuzzle.Url.Percent

def isControl (c : Char) : Bool :=
  c.toNat < 0x20 || 0x7E < c.toNat

def inFragment (c : Char) : Bool :=
  isControl c || c ∈ [' ', '"', '<', '>', '\x60']

def inPath (c : Char) : Bool :=
  inFragment c || c ∈ ['#', '?', '\x7b', '\x7d']

def inUserinfo (c : Char) : Bool :=
  inPath c || c ∈ ['/', ':', ';', '=', '@', '[', '\\', ']', '^', '|']

def inQuery (c : Char) : Bool :=
  isControl c || c ∈ [' ', '"', '#', '<', '>']

def inSpecialQuery (c : Char) : Bool :=
  inQuery c || c = '\''

def hexDigit (n : Nat) : Char :=
  Char.ofNat (if n < 10 then n + 48 else n + 55)

def encodeByte (b : UInt8) : List Char :=
  ['%', hexDigit (b.toNat / 16), hexDigit (b.toNat % 16)]

def encode (set : Char → Bool) (cs : List Char) : List Char :=
  cs.flatMap fun c => if set c then (Utf8.encode [c]).flatMap encodeByte else [c]

def hexDigit? (b : UInt8) : Option Nat :=
  if 48 ≤ b && b ≤ 57 then some (b.toNat - 48)
  else if 65 ≤ b && b ≤ 70 then some (b.toNat - 55)
  else if 97 ≤ b && b ≤ 102 then some (b.toNat - 87)
  else none

/-- Replaces escapes by their bytes. A percent sign that starts no escape stays. -/
def decodeBytes : List UInt8 → List UInt8
  | 37 :: a :: b :: bs =>
    match hexDigit? a, hexDigit? b with
    | some hi, some lo => .ofNat (16 * hi + lo) :: decodeBytes bs
    | _, _ => 37 :: decodeBytes (a :: b :: bs)
  | b :: bs => b :: decodeBytes bs
  | [] => []

def decode (cs : List Char) : List UInt8 :=
  decodeBytes (Utf8.encode cs)

end TilePuzzle.Url.Percent
