import TilePuzzle.Decimal
import TilePuzzle.Url.Percent

namespace TilePuzzle.Url.Ipv4

def hexDigit? (c : Char) : Option Nat :=
  if c.toNat < 128 then Percent.hexDigit? (.ofNat c.toNat) else none

def inBase? (base : Nat) : List Char → Option Nat :=
  go 0
where
  go (n : Nat) : List Char → Option Nat
    | [] => some n
    | c :: cs =>
      match hexDigit? c with
      | some d => if d < base then go (base * n + d) cs else none
      | none => none

/-- A part of an address: hexadecimal after `0x`, octal after any other leading zero. -/
def part? : List Char → Option Nat
  | [] => none
  | '0' :: 'x' :: ds => inBase? 16 ds
  | '0' :: 'X' :: ds => inBase? 16 ds
  | '0' :: d :: ds => inBase? 8 (d :: ds)
  | ds => inBase? 10 ds

def parts (cs : List Char) : List (List Char) :=
  let ps := cs.splitOnP (· = '.')
  if ps.getLast? = some [] then ps.dropLast else ps

/-- Tells whether a host is meant as an address: its last part is a number. -/
def endsInNumber (cs : List Char) : Bool :=
  match (parts cs).getLast? with
  | none => false
  | some last => (last ≠ [] && last.all Char.isDigit) || (part? last).isSome

/-- The address with the given numbers. All but the last are bytes. -/
def ofNumbers? (ns : List Nat) : Option Nat :=
  match ns.getLast? with
  | none => none
  | some last =>
    let bytes := ns.dropLast
    if ns.length ≤ 4 && bytes.all (· < 256) && last < Nat.pow 256 (4 - bytes.length) then
      some (bytes.foldl (256 * · + ·) 0 * Nat.pow 256 (4 - bytes.length) + last)
    else none

def parse? (cs : List Char) : Option Nat :=
  ((parts cs).mapM part?).bind ofNumbers?

def render (address : Nat) : List Char :=
  [address / 16777216 % 256, address / 65536 % 256, address / 256 % 256, address % 256]
    |>.map Decimal.digits |>.intersperse ['.'] |>.flatten

end TilePuzzle.Url.Ipv4
