namespace TilePuzzle.Url.Punycode

/-- The largest number that insertions may add up to. -/
def limit : Nat := 4294967296

def reduce (delta k : Nat) : Nat :=
  if h : 455 < delta then reduce (delta / 35) (k + 36)
  else k + 36 * delta / (delta + 38)
termination_by delta
decreasing_by omega

def adapt (delta count : Nat) (first : Bool) : Nat :=
  let delta := if first then delta / 700 else delta / 2
  reduce (delta + delta / count) 0

def threshold (k bias : Nat) : Nat :=
  if k ≤ bias then 1 else if bias + 26 ≤ k then 26 else k - bias

def digit? (c : Char) : Option Nat :=
  if c.isDigit then some (c.toNat - 22)
  else if c.isLower then some (c.toNat - 97)
  else if c.isUpper then some (c.toNat - 65)
  else none

def digit (d : Nat) : Char :=
  Char.ofNat (if d < 26 then d + 97 else d + 22)

def number? (bias : Nat) : (i w k : Nat) → List Char → Option (Nat × List Char)
  | _, _, _, [] => none
  | i, w, k, c :: cs =>
    match digit? c with
    | none => none
    | some d =>
      let i := i + d * w
      let t := threshold k bias
      if limit ≤ i then none
      else if d < t then some (i, cs)
      else if limit ≤ w * (36 - t) then none
      else number? bias i (w * (36 - t)) (k + 36) cs

theorem length_number? {bias i w k : Nat} {cs rest : List Char} {n : Nat}
    (h : number? bias i w k cs = some (n, rest)) : rest.length < cs.length := by
  induction cs generalizing i w k with
  | nil => simp [number?] at h
  | cons c cs ih =>
    simp only [number?] at h
    split at h
    · simp at h
    · split at h
      · simp at h
      · split at h
        · simp_all
        · split at h
          · simp at h
          · have := ih h
            simp only [List.length_cons]; omega

def insertions (out : List Char) (n i bias : Nat) (cs : List Char) : Option (List Char) :=
  if cs = [] then some out
  else
    match _h : number? bias i 1 36 cs with
    | none => none
    | some (i', rest) =>
      let count := out.length + 1
      let n := n + i' / count
      let place := i' % count
      if n.isValidChar then
        insertions (out.take place ++ Char.ofNat n :: out.drop place) n (place + 1)
          (adapt (i' - i) count (i = 0)) rest
      else none
termination_by cs.length
decreasing_by exact length_number? ‹_›

def splitBasic (cs : List Char) : List Char × List Char :=
  if '-' ∈ cs then
    let after := (cs.reverse.takeWhile (· ≠ '-')).reverse
    (cs.take (cs.length - after.length - 1), after)
  else ([], cs)

def decode (cs : List Char) : Option (List Char) :=
  let (basic, rest) := splitBasic cs
  if basic.all (·.toNat < 128) then insertions basic 128 0 72 rest else none

def writeNumber (bias : Nat) : (fuel q k : Nat) → List Char
  | 0, _, _ => []
  | fuel + 1, q, k =>
    let t := threshold k bias
    if q < t then [digit q]
    else digit (t + (q - t) % (36 - t)) :: writeNumber bias fuel ((q - t) / (36 - t)) (k + 36)

structure Encoder where
  delta : Nat
  bias : Nat
  handled : Nat
  out : List Char

def Encoder.insert (basic n : Nat) (e : Encoder) (c : Nat) : Encoder :=
  if c < n then { e with delta := e.delta + 1 }
  else if c = n then
    { delta := 0
      bias := adapt e.delta (e.handled + 1) (e.handled = basic)
      handled := e.handled + 1
      out := e.out ++ writeNumber e.bias (e.delta + 1) e.delta 36 }
  else e

/-- Writes the code points of `todo`, which are distinct and ascending. -/
def Encoder.run (basic : Nat) (label : List Nat) (e : Encoder) (n : Nat) : List Nat → Encoder
  | [] => e
  | m :: todo =>
    let e := { e with delta := e.delta + (m - n) * (e.handled + 1) }
    let e := label.foldl (Encoder.insert basic m) e
    Encoder.run basic label { e with delta := e.delta + 1 } (m + 1) todo

def encode (cs : List Char) : List Char :=
  let basic := cs.filter (·.toNat < 128)
  let label := cs.map Char.toNat
  let todo := ((label.filter (128 ≤ ·)).mergeSort (· ≤ ·)).eraseDups
  let start := if basic = [] then [] else basic ++ ['-']
  (Encoder.run basic.length label ⟨0, 72, basic.length, start⟩ 128 todo).out

end TilePuzzle.Url.Punycode
