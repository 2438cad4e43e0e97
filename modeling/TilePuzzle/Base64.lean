namespace TilePuzzle.Base64

def pad : UInt8 := 61

def value? (b : UInt8) : Option Nat :=
  if 65 ≤ b && b ≤ 90 then some (b.toNat - 65)
  else if 97 ≤ b && b ≤ 122 then some (b.toNat - 71)
  else if 48 ≤ b && b ≤ 57 then some (b.toNat + 4)
  else if b = 43 then some 62
  else if b = 47 then some 63
  else none

def symbol (v : Nat) : UInt8 :=
  if v < 26 then .ofNat (v + 65)
  else if v < 52 then .ofNat (v + 71)
  else if v < 62 then .ofNat (v - 4)
  else if v = 62 then 43
  else 47

def encode : List UInt8 → List UInt8
  | [] => []
  | [a] => [symbol (a.toNat / 4), symbol (a.toNat % 4 * 16), pad, pad]
  | [a, b] =>
    [symbol (a.toNat / 4), symbol (a.toNat % 4 * 16 + b.toNat / 16), symbol (b.toNat % 16 * 4), pad]
  | a :: b :: c :: bs =>
    symbol (a.toNat / 4) :: symbol (a.toNat % 4 * 16 + b.toNat / 16) ::
      symbol (b.toNat % 16 * 4 + c.toNat / 64) :: symbol (c.toNat % 64) :: encode bs

/-- What is wrong with a text. Offsets count bytes. -/
inductive Fault
  | symbol (value : UInt8) (offset : Nat)
  | inputLength (length : Nat)
  | lastSymbol (value : UInt8) (offset : Nat)
  | padding
  deriving Repr, DecidableEq

def Fault.message : Fault → String
  | .symbol value offset => s!"Invalid symbol {value.toNat}, offset {offset}."
  | .inputLength length => s!"Invalid input length: {length}"
  | .lastSymbol value offset => s!"Invalid last symbol {value.toNat}, offset {offset}."
  | .padding => "Invalid padding"

def values (offset : Nat) : List UInt8 → Except Fault (List Nat)
  | [] => .ok []
  | b :: bs =>
    match value? b with
    | none => .error (.symbol b offset)
    | some v => (values (offset + 1) bs).map (v :: ·)

def bytes : List Nat → List UInt8
  | v₀ :: v₁ :: vs => .ofNat (v₀ * 4 + v₁ / 16) ::
    match vs with
    | [] => []
    | v₂ :: vs => .ofNat (v₁ % 16 * 16 + v₂ / 4) ::
      match vs with
      | [] => []
      | v₃ :: _ => [.ofNat (v₂ % 4 * 64 + v₃)]
  | _ => []

def decodeLast (offset : Nat) (bs : List UInt8) : Except Fault (List UInt8) :=
  let symbols := bs.takeWhile (· ≠ pad)
  let padding := bs.dropWhile (· ≠ pad)
  match values offset symbols with
  | .error e => .error e
  | .ok vs =>
    if padding ≠ [] ∧ (vs.length < 2 ∨ padding.any (· ≠ pad)) then
      .error (.symbol pad (offset + vs.length))
    else match vs with
      | [] => .ok []
      | [_] => .error (.inputLength (offset + 1))
      | _ =>
        if bs.length ≠ 4 then .error .padding
        else match symbols, vs with
          | [_, s], [_, v] =>
            if v % 16 = 0 then .ok (bytes vs) else .error (.lastSymbol s (offset + 1))
          | [_, _, s], [_, _, v] =>
            if v % 4 = 0 then .ok (bytes vs) else .error (.lastSymbol s (offset + 2))
          | _, _ => .ok (bytes vs)

def decodeFrom (offset : Nat) : List UInt8 → Except Fault (List UInt8)
  | a :: b :: c :: d :: e :: bs =>
    match values offset [a, b, c, d] with
    | .error e => .error e
    | .ok vs => (decodeFrom (offset + 4) (e :: bs)).map (bytes vs ++ ·)
  | bs => decodeLast offset bs

/-- A foreign symbol that hangs over the last whole group is reported before any other. -/
def overhang? (bs : List UInt8) : Option Fault :=
  match bs.getLast? with
  | some b =>
    if bs.length % 4 = 1 ∧ b ≠ pad ∧ value? b = none then some (.symbol b (bs.length - 1)) else none
  | none => none

def decode (bs : List UInt8) : Except Fault (List UInt8) :=
  match overhang? bs with
  | some fault => .error fault
  | none => decodeFrom 0 bs

end TilePuzzle.Base64
