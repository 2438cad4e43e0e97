namespace TilePuzzle.Decimal

def digits (n : Nat) : List Char :=
  Nat.toDigits 10 n

def value (ds : List Char) : Nat :=
  Nat.ofDigitChars 10 ds 0

def ofInt : Int → List Char
  | .ofNat n => digits n
  | .negSucc n => '-' :: digits (n + 1)

def nat? (cs : List Char) : Option Nat :=
  if cs ≠ [] ∧ cs.all Char.isDigit then some (value cs) else none

def int? : List Char → Option Int
  | '-' :: cs => (nat? cs).map fun n => -(n : Int)
  | '+' :: cs => (nat? cs).map fun n => (n : Int)
  | cs => (nat? cs).map fun n => (n : Int)

def unsigned : List Char → List Char
  | '-' :: cs => cs
  | '+' :: cs => cs
  | cs => cs

def isSigned (cs : List Char) : Bool :=
  !(unsigned cs).isEmpty && (unsigned cs).all Char.isDigit

/-- Digits with underscores anywhere after the first of them. -/
def looseDigits? (cs : List Char) : Option Nat :=
  if cs.head? = none ∨ cs.head? = some '_' then none
  else
    let ds := cs.filter (· ≠ '_')
    if ds.all Char.isDigit then some (value ds) else none

def looseInt? : List Char → Option Int
  | '-' :: cs => (looseDigits? cs).map fun n : Nat => -(n : Int)
  | '+' :: cs => (looseDigits? cs).map Int.ofNat
  | cs => (looseDigits? cs).map Int.ofNat

/-- One or more digits after at most one plus sign, denoting a number below `2 ^ 64`. -/
def word? (cs : List Char) : Option UInt64 :=
  let ds := match cs with
    | '+' :: ds => ds
    | ds => ds
  (nat? ds).bind fun n => if h : n < UInt64.size then some (UInt64.ofNatLT n h) else none

theorem value_digits (n : Nat) : value (digits n) = n :=
  Nat.ofDigitChars_toDigits (by decide) (by decide)

theorem digits_injective {m n : Nat} (h : digits m = digits n) : m = n := by
  rw [← value_digits m, h, value_digits]

end TilePuzzle.Decimal
