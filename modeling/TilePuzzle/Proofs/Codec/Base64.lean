import Mathlib.Data.UInt
import TilePuzzle.Base64

namespace TilePuzzle.Base64

theorem value?_symbol : ∀ v < 64, value? (symbol v) = some v := by
  decide

theorem symbol_ne_pad : ∀ v < 64, symbol v ≠ pad := by
  decide

theorem length_encode_mod (bs : List UInt8) : (encode bs).length % 4 = 0 := by
  fun_induction encode bs with
  | case1 => rfl
  | case2 | case3 => simp only [List.length_cons, List.length_nil]
  | case4 a b c bs ih => simpa [Nat.add_assoc] using ih

theorem forall_mem_encode {P : UInt8 → Prop} (hp : P pad) (hs : ∀ v < 64, P (symbol v))
    (bs : List UInt8) : ∀ b ∈ encode bs, P b := by
  fun_induction encode bs with
  | case1 => exact List.forall_mem_nil P
  | case2 a =>
      have ha := a.toNat_lt
      simp only [List.forall_mem_cons]
      refine ⟨hs _ ?_, hs _ ?_, hp, hp, List.forall_mem_nil P⟩ <;> omega
  | case3 a b =>
      have ha := a.toNat_lt
      have hb := b.toNat_lt
      simp only [List.forall_mem_cons]
      refine ⟨hs _ ?_, hs _ ?_, hs _ ?_, hp, List.forall_mem_nil P⟩ <;> omega
  | case4 a b c bs ih =>
      have ha := a.toNat_lt
      have hb := b.toNat_lt
      have hc := c.toNat_lt
      simp only [List.forall_mem_cons]
      refine ⟨hs _ ?_, hs _ ?_, hs _ ?_, hs _ ?_, ih⟩ <;> omega

theorem values_symbols (offset : Nat) (vs : List Nat) (h : ∀ v ∈ vs, v < 64) :
    values offset (vs.map symbol) = .ok vs := by
  induction vs generalizing offset with
  | nil => rfl
  | cons v vs ih =>
      rw [List.map_cons, values, value?_symbol v (h v List.mem_cons_self)]
      rw [ih (offset + 1) fun w hw => h w (List.mem_cons_of_mem v hw)]
      rfl

theorem splitAt_pad (vs : List Nat) (n : Nat) (h : ∀ v ∈ vs, v < 64) :
    (vs.map symbol ++ List.replicate n pad).takeWhile (· ≠ pad) = vs.map symbol ∧
      (vs.map symbol ++ List.replicate n pad).dropWhile (· ≠ pad) = List.replicate n pad := by
  have hs : ∀ s ∈ vs.map symbol, decide (s ≠ pad) = true := by
    intro s hs
    obtain ⟨v, hv, rfl⟩ := List.mem_map.1 hs
    exact decide_eq_true (symbol_ne_pad v (h v hv))
  rw [List.takeWhile_append_of_pos hs, List.dropWhile_append_of_pos hs]
  cases n <;> simp [List.replicate_succ]

/-- The bits of the last symbol that make no byte are zero. -/
def Canonical : List Nat → Prop
  | [_, v] => v % 16 = 0
  | [_, _, v] => v % 4 = 0
  | [_, _, _, _] => True
  | _ => False

theorem decodeLast_symbols (offset : Nat) (vs : List Nat) (n : Nat) (h : ∀ v ∈ vs, v < 64)
    (hn : vs.length + n = 4) (hc : Canonical vs) :
    decodeLast offset (vs.map symbol ++ List.replicate n pad) = .ok (bytes vs) := by
  obtain ⟨ht, hd⟩ := splitAt_pad vs n h
  have hl : (vs.map symbol ++ List.replicate n pad).length = 4 := by simpa using hn
  have hp : ¬((List.replicate n pad).any (· ≠ pad)) := by simp
  simp only [decodeLast, ht, hd, values_symbols offset vs h, hl]
  match vs, hc with
  | [_, _], hc => simpa [hp, Canonical] using hc
  | [_, _, _], hc => simpa [hp, Canonical] using hc
  | [_, _, _, _], _ => simp

theorem ofNat_eq {n : Nat} {b : UInt8} (h : n = b.toNat) : UInt8.ofNat n = b := by
  rw [h, UInt8.ofNat_toNat]

theorem bytes_one (a : UInt8) : bytes [a.toNat / 4, a.toNat % 4 * 16] = [a] := by
  rw [bytes, ofNat_eq]
  omega

theorem bytes_two (a b : UInt8) :
    bytes [a.toNat / 4, a.toNat % 4 * 16 + b.toNat / 16, b.toNat % 16 * 4] = [a, b] := by
  have hb := b.toNat_lt
  rw [bytes, ofNat_eq (b := a), ofNat_eq (b := b)] <;> omega

theorem bytes_three (a b c : UInt8) :
    bytes [a.toNat / 4, a.toNat % 4 * 16 + b.toNat / 16, b.toNat % 16 * 4 + c.toNat / 64,
      c.toNat % 64] = [a, b, c] := by
  have hb := b.toNat_lt
  have hc := c.toNat_lt
  rw [bytes, ofNat_eq (b := a), ofNat_eq (b := b), ofNat_eq (b := c)] <;> omega

theorem decodeFrom_group (offset : Nat) (vs : List Nat) (h : ∀ v ∈ vs, v < 64)
    (hl : vs.length = 4) (bs : List UInt8) :
    decodeFrom offset (vs.map symbol ++ bs) =
      (decodeFrom (offset + 4) bs).map (bytes vs ++ ·) := by
  match vs, hl with
  | [v₀, v₁, v₂, v₃], _ =>
      cases bs with
      | nil =>
          have hd := decodeLast_symbols offset [v₀, v₁, v₂, v₃] 0 h rfl trivial
          have he : decodeFrom (offset + 4) [] = .ok [] := rfl
          rw [he, Except.map, List.append_nil]
          exact hd
      | cons b bs =>
          have hv := values_symbols offset [v₀, v₁, v₂, v₃] h
          rw [List.map_cons, List.map_cons, List.map_cons, List.map_cons, List.map_nil] at hv ⊢
          simp only [List.cons_append, List.nil_append, decodeFrom, hv]

theorem decodeFrom_encode (offset : Nat) (bs : List UInt8) :
    decodeFrom offset (encode bs) = .ok bs := by
  fun_induction encode bs generalizing offset with
  | case1 => rfl
  | case2 a =>
      have hl := decodeLast_symbols offset [a.toNat / 4, a.toNat % 4 * 16] 2
        (by have := a.toNat_lt; simp; omega) rfl (by simp [Canonical])
      rwa [bytes_one] at hl
  | case3 a b =>
      have ha := a.toNat_lt
      have hb := b.toNat_lt
      have hl := decodeLast_symbols offset
        [a.toNat / 4, a.toNat % 4 * 16 + b.toNat / 16, b.toNat % 16 * 4] 1
        (by simp; omega) rfl (by simp [Canonical])
      rwa [bytes_two] at hl
  | case4 a b c bs ih =>
      have ha := a.toNat_lt
      have hb := b.toNat_lt
      have hc := c.toNat_lt
      have hg := decodeFrom_group offset [a.toNat / 4, a.toNat % 4 * 16 + b.toNat / 16,
        b.toNat % 16 * 4 + c.toNat / 64, c.toNat % 64] (by simp; omega) rfl (encode bs)
      rw [bytes_three, ih] at hg
      exact hg

theorem decode_encode (bs : List UInt8) : decode (encode bs) = .ok bs := by
  have hm := length_encode_mod bs
  have ho : overhang? (encode bs) = none := by
    unfold overhang?
    split
    · rw [if_neg]
      omega
    · rfl
  rw [decode, ho]
  exact decodeFrom_encode 0 bs

end TilePuzzle.Base64
