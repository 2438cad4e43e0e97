import TilePuzzle.Decimal
import TilePuzzle.Toml.Text
import TilePuzzle.Toml.Value

namespace TilePuzzle.Toml

/-- Digits with single underscores between them; the underscores are dropped. -/
def digits? (isDigit : Char → Bool) (cs : List Char) : Option (List Char) :=
  let groups := cs.splitOnP (· = '_')
  if groups.all fun g => g ≠ [] && g.all isDigit then some groups.flatten else none

def splitSign : List Char → Bool × List Char
  | '-' :: cs => (true, cs)
  | '+' :: cs => (false, cs)
  | cs => (false, cs)

def wholeDigits? (cs : List Char) : Option (List Char) :=
  (digits? Char.isDigit cs).bind fun ds =>
    if 1 < ds.length && ds.head? = some '0' then none else some ds

def bounded? (z : Int) : Option Value :=
  if -9223372036854775808 ≤ z ∧ z ≤ 9223372036854775807 then some (.integer z) else none

def inBase? (base : Nat) (cs : List Char) : Option Value :=
  let isDigit := fun c => ((hexDigit? c).map fun d => decide (d < base)).getD false
  (digits? isDigit cs).bind fun ds =>
    bounded? ((ds.filterMap hexDigit?).foldl (base * · + ·) 0 : Nat)

def integer? : List Char → Option Value
  | '0' :: 'x' :: cs => inBase? 16 cs
  | '0' :: 'o' :: cs => inBase? 8 cs
  | '0' :: 'b' :: cs => inBase? 2 cs
  | cs =>
    let (negative, body) := splitSign cs
    (wholeDigits? body).bind fun ds =>
      bounded? (if negative then -(Decimal.value ds : Int) else Decimal.value ds)

/-- Half way from the largest float to the power of two after it. -/
def floatLimit : Nat := Nat.pow 2 1024 - Nat.pow 2 970

/-- Tells whether `n * 10 ^ e` is nearer to infinity than to any float. -/
def overflows (n : Nat) (e : Int) : Bool :=
  let width : Int := (Decimal.digits n).length
  if n = 0 || e + width < 300 then false
  else if 400 < e + width then true
  else if e < 0 then floatLimit ≤ n / Nat.pow 10 e.natAbs
  else floatLimit ≤ n * Nat.pow 10 e.natAbs

def exponent? (cs : List Char) : Option Int :=
  let (negative, body) := splitSign cs
  (digits? Char.isDigit body).map fun ds =>
    if negative then -(Decimal.value ds : Int) else Decimal.value ds

def fraction? : List Char → Option (List Char)
  | '.' :: cs => digits? Char.isDigit cs
  | _ => none

def float? (cs : List Char) : Option Value :=
  let (negative, body) := splitSign cs
  if body = "inf".toList || body = "nan".toList then some .float
  else
    let isExponent := fun c => c = 'e' || c = 'E'
    let mantissa := body.takeWhile (!isExponent ·)
    let tail := body.dropWhile (!isExponent ·)
    let whole := mantissa.takeWhile (· ≠ '.')
    let point := mantissa.dropWhile (· ≠ '.')
    if tail = [] && point = [] then none
    else do
      let ds ← wholeDigits? whole
      let fs ← if point = [] then some [] else fraction? point
      let e ← if tail = [] then some 0 else exponent? (tail.drop 1)
      if !negative && overflows (Decimal.value (ds ++ fs)) (e - fs.length) then none else some .float

def twoDigits? (low high : Nat) (cs : List Char) : Option (Nat × List Char) :=
  match cs with
  | a :: b :: rest =>
    (Decimal.nat? [a, b]).bind fun n => if low ≤ n && n ≤ high then some (n, rest) else none
  | _ => none

def drop? (c : Char) : List Char → Option (List Char)
  | [] => none
  | d :: cs => if d = c then some cs else none

def daysInMonth (year month : Nat) : Nat :=
  if month = 2 then
    if year % 4 = 0 && (year % 100 ≠ 0 || year % 400 = 0) then 29 else 28
  else if month ∈ [4, 6, 9, 11] then 30
  else 31

def day? (cs : List Char) : Option (List Char) := do
  let year ← Decimal.nat? (cs.take 4)
  if cs.length < 4 then none
  let (month, cs) ← twoDigits? 1 12 (← drop? '-' (cs.drop 4))
  let (_, cs) ← twoDigits? 1 (daysInMonth year month) (← drop? '-' cs)
  return cs

def time? (cs : List Char) : Option (List Char) := do
  let (_, cs) ← twoDigits? 0 23 cs
  let (_, cs) ← twoDigits? 0 59 (← drop? ':' cs)
  let (_, cs) ← twoDigits? 0 60 (← drop? ':' cs)
  match cs with
  | '.' :: fs =>
    let rest := fs.dropWhile Char.isDigit
    if rest.length = fs.length then none else some rest
  | _ => some cs

def isOffset (cs : List Char) : Bool :=
  cs = ['Z'] || cs = ['z'] || match cs with
    | c :: cs => (c = '+' || c = '-') && (do
        let (_, cs) ← twoDigits? 0 23 cs
        let (_, cs) ← twoDigits? 0 59 (← drop? ':' cs)
        return cs) = some []
    | [] => false

def isTime (zoned : Bool) (cs : List Char) : Bool :=
  match time? cs with
  | some rest => rest = [] || (zoned && isOffset rest)
  | none => false

def isDate (cs : List Char) : Bool :=
  match day? cs with
  | some [] => true
  | some (t :: rest) => (t = 'T' || t = 't') && isTime true rest
  | none => isTime false cs

def isScalarChar (c : Char) : Bool :=
  c.isAlphanum || c ∈ ['+', '-', '.', '_', ':']

def scalar? (cs : List Char) : Option Value :=
  if cs = "true".toList then some (.boolean true)
  else if cs = "false".toList then some (.boolean false)
  else if isDate cs then some .date
  else match float? cs with
    | some v => some v
    | none => integer? cs

/-- Reads a number, a truth value or a date. A blank may stand between a date and its time. -/
def scalar (cs : List Char) : Option (Value × List Char) :=
  let token := cs.takeWhile isScalarChar
  let rest := cs.dropWhile isScalarChar
  let next := match rest with
    | ' ' :: after => after.takeWhile isScalarChar
    | _ => []
  if day? token = some [] && (next.head?.map Char.isDigit).getD false then
    if isTime true next then some (.date, rest.drop (next.length + 1)) else none
  else (scalar? token).map fun v => (v, rest)

end TilePuzzle.Toml
