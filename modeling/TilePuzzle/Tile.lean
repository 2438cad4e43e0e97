import TilePuzzle.Decimal

namespace TilePuzzle

structure Tile where
  value : UInt64
  token : String
  deriving Repr, DecidableEq

inductive DeriveError
  | noTiles
  | indexOutOfRange (index tileCount : Nat)
  deriving Repr, DecidableEq

def DeriveError.message : DeriveError → String
  | .noTiles => "No tiles were supplied"
  | .indexOutOfRange index count => s!"Token index {index} is out of range for {count} tiles"

structure Derivation where
  combined : String
  reversed : String
  sessionId : Nat
  index : Nat
  token : String
  deriving Repr, DecidableEq

namespace Answer

/-- The tile values read one after the other as a single number. No tiles denote zero. -/
def combinedNumber (tiles : List Tile) : Nat :=
  Decimal.value (tiles.flatMap fun t => Decimal.digits t.value.toNat)

/-- Reverses the characters of a text; a leading zero of the result stays. -/
def reverseDigits (text : String) : String :=
  String.ofList text.toList.reverse

def maxShift : Nat := 4294967295

/-- `(r + 99) * r`, where `r` is `n` followed by its reversed digits, modulo five. -/
def sessionId (n : Nat) : Nat :=
  let ds := Decimal.digits n
  let r := (n * Nat.pow 10 (min ds.length maxShift) + Decimal.value ds.reverse) % 5
  (r + 99) * r

/-- The tile that lends its token is chosen by the combined number modulo eight. -/
def tokenIndex (n : Nat) : Nat :=
  n % 8

end Answer

namespace Derivation

def answer (d : Derivation) : String :=
  d.combined ++ d.reversed ++ String.ofList (Decimal.digits d.sessionId) ++ d.token

def ofTiles (tiles : List Tile) : Except DeriveError Derivation :=
  if tiles.isEmpty then .error .noTiles
  else
    let n := Answer.combinedNumber tiles
    let combined := String.ofList (Decimal.digits n)
    match tiles[Answer.tokenIndex n]? with
    | none => .error (.indexOutOfRange (Answer.tokenIndex n) tiles.length)
    | some tile => .ok {
        combined
        reversed := Answer.reverseDigits combined
        sessionId := Answer.sessionId n
        index := Answer.tokenIndex n
        token := tile.token }

end Derivation

end TilePuzzle
