namespace TilePuzzle.Utf8

def encode (cs : List Char) : List UInt8 :=
  cs.flatMap String.utf8EncodeChar

def byteLength (cs : List Char) : Nat :=
  (encode cs).length

/-- Bytes that are not text. Those before `index` are; the sequence that starts there is wrong
after `length` bytes, or cut off by the end where there is no length. -/
structure Fault where
  index : Nat
  length : Option Nat
  deriving Repr, DecidableEq

def Fault.message : Fault → String
  | ⟨index, some length⟩ => s!"invalid utf-8 sequence of {length} bytes from index {index}"
  | ⟨index, none⟩ => s!"incomplete utf-8 byte sequence from index {index}"

/-- What a lead byte and the bytes after it begin with: a character that takes `extra` of them, a
sequence that is wrong after `length` bytes, or one that the end cuts off. -/
inductive Head
  | char (c : Char) (extra : Nat)
  | wrong (length : Nat)
  | cut
  deriving Repr, DecidableEq

def isContinuation (b : UInt8) : Bool :=
  0x80 ≤ b && b ≤ 0xBF

/-- Continuation bytes that may stand directly after `lead`. Overlong forms, surrogates and code
points beyond the last are refused here. -/
def follows (lead b : UInt8) : Bool :=
  if lead = 0xE0 then 0xA0 ≤ b && b ≤ 0xBF
  else if lead = 0xED then 0x80 ≤ b && b ≤ 0x9F
  else if lead = 0xF0 then 0x90 ≤ b && b ≤ 0xBF
  else if lead = 0xF4 then 0x80 ≤ b && b ≤ 0x8F
  else isContinuation b

def scalar (lead : Nat) (bs : List UInt8) : Char :=
  Char.ofNat (bs.foldl (fun n b => 64 * n + b.toNat % 64) lead)

def head (b : UInt8) (bs : List UInt8) : Head :=
  if b < 0x80 then .char (Char.ofNat b.toNat) 0
  else if b < 0xC2 || 0xF4 < b then .wrong 1
  else match bs with
    | [] => .cut
    | b₁ :: bs =>
      if !follows b b₁ then .wrong 1
      else if b < 0xE0 then .char (scalar (b.toNat % 32) [b₁]) 1
      else match bs with
        | [] => .cut
        | b₂ :: bs =>
          if !isContinuation b₂ then .wrong 2
          else if b < 0xF0 then .char (scalar (b.toNat % 16) [b₁, b₂]) 2
          else match bs with
            | [] => .cut
            | b₃ :: _ =>
              if !isContinuation b₃ then .wrong 3
              else .char (scalar (b.toNat % 8) [b₁, b₂, b₃]) 3

def decodeFrom (index : Nat) : List UInt8 → Except Fault (List Char)
  | [] => .ok []
  | b :: bs =>
    match head b bs with
    | .char c extra => (decodeFrom (index + 1 + extra) (bs.drop extra)).map (c :: ·)
    | .wrong length => .error ⟨index, some length⟩
    | .cut => .error ⟨index, none⟩
termination_by bs => bs.length
decreasing_by simp only [List.length_drop, List.length_cons]; omega

def decode (bs : List UInt8) : Except Fault (List Char) :=
  decodeFrom 0 bs

def replacement : Char := Char.ofNat 0xFFFD

def decodeLossy : List UInt8 → List Char
  | [] => []
  | b :: bs =>
    match head b bs with
    | .char c extra => c :: decodeLossy (bs.drop extra)
    | .wrong length => replacement :: decodeLossy (bs.drop (length - 1))
    | .cut => [replacement]
termination_by bs => bs.length
decreasing_by all_goals simp only [List.length_drop, List.length_cons]; omega

end TilePuzzle.Utf8
