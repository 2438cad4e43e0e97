import TilePuzzle.Proofs.Codec.Base64

namespace TilePuzzle.Base64

/-- One or two bytes at the end take two or three symbols and padding. Bits of these symbols that
belong to no byte are zero. -/
inductive Spells : List UInt8 → List UInt8 → Prop
  | nil : Spells [] []
  | one {v₀ v₁ : Nat} {a : UInt8} (h₀ : v₀ < 64) (h₁ : v₁ < 64)
      (h : v₀ * 64 + v₁ = a.toNat * 16) : Spells [symbol v₀, symbol v₁, pad, pad] [a]
  | two {v₀ v₁ v₂ : Nat} {a b : UInt8} (h₀ : v₀ < 64) (h₁ : v₁ < 64) (h₂ : v₂ < 64)
      (h : (v₀ * 64 + v₁) * 64 + v₂ = (a.toNat * 256 + b.toNat) * 4) :
      Spells [symbol v₀, symbol v₁, symbol v₂, pad] [a, b]
  | group {v₀ v₁ v₂ v₃ : Nat} {a b c : UInt8} {ss bs : List UInt8}
      (h₀ : v₀ < 64) (h₁ : v₁ < 64) (h₂ : v₂ < 64) (h₃ : v₃ < 64)
      (h : ((v₀ * 64 + v₁) * 64 + v₂) * 64 + v₃ = (a.toNat * 256 + b.toNat) * 256 + c.toNat)
      (hs : Spells ss bs) :
      Spells (symbol v₀ :: symbol v₁ :: symbol v₂ :: symbol v₃ :: ss) (a :: b :: c :: bs)

variable {offset : Nat} {ss bs : List UInt8} {vs : List Nat}

theorem spells_encode (bs : List UInt8) : Spells (encode bs) bs := by
  fun_induction encode bs with
  | case1 => exact .nil
  | case2 a =>
      have ha := a.toNat_lt
      apply Spells.one <;> omega
  | case3 a b =>
      have ha := a.toNat_lt
      have hb := b.toNat_lt
      apply Spells.two <;> omega
  | case4 a b c bs ih =>
      have ha := a.toNat_lt
      have hb := b.toNat_lt
      have hc := c.toNat_lt
      apply Spells.group _ _ _ _ _ ih <;> omega

theorem Spells.eq_encode (h : Spells ss bs) : ss = encode bs := by
  induction h with
  | nil => rfl
  | @one v₀ v₁ a h₀ h₁ h =>
      obtain rfl : v₀ = a.toNat / 4 := by omega
      obtain rfl : v₁ = a.toNat % 4 * 16 := by omega
      rfl
  | @two v₀ v₁ v₂ a b h₀ h₁ h₂ h =>
      have hb := b.toNat_lt
      obtain rfl : v₀ = a.toNat / 4 := by omega
      obtain rfl : v₁ = a.toNat % 4 * 16 + b.toNat / 16 := by omega
      obtain rfl : v₂ = b.toNat % 16 * 4 := by omega
      rfl
  | @group v₀ v₁ v₂ v₃ a b c ss bs h₀ h₁ h₂ h₃ h hs ih =>
      have hb := b.toNat_lt
      have hc := c.toNat_lt
      obtain rfl : v₀ = a.toNat / 4 := by omega
      obtain rfl : v₁ = a.toNat % 4 * 16 + b.toNat / 16 := by omega
      obtain rfl : v₂ = b.toNat % 16 * 4 + c.toNat / 64 := by omega
      obtain rfl : v₃ = c.toNat % 64 := by omega
      rw [encode, ih]

theorem symbol_of_value? (b : UInt8) {v : Nat} (h : value? b = some v) : v < 64 ∧ symbol v = b := by
  have hall : ∀ n < 256, ∀ v ∈ value? (.ofNat n), v < 64 ∧ symbol v = .ofNat n := by
    decide +kernel
  have hb := hall b.toNat b.toNat_lt v
  rw [UInt8.ofNat_toNat] at hb
  exact hb h

theorem values_eq_ok (h : values offset ss = .ok vs) :
    ss = vs.map symbol ∧ ∀ v ∈ vs, v < 64 := by
  induction ss generalizing offset vs with
  | nil =>
      cases h
      exact ⟨rfl, List.forall_mem_nil _⟩
  | cons s ss ih =>
      rw [values] at h
      cases hv : value? s with
      | none =>
          rw [hv] at h
          cases h
      | some v =>
          rw [hv] at h
          cases hr : values (offset + 1) ss with
          | error e =>
              rw [hr] at h
              cases h
          | ok ws =>
              rw [hr] at h
              cases h
              obtain ⟨hs, hw⟩ := ih hr
              obtain ⟨hb, rfl⟩ := symbol_of_value? s hv
              exact ⟨by rw [List.map_cons, ← hs], List.forall_mem_cons.2 ⟨hb, hw⟩⟩

theorem spells_bytes_four {v₀ v₁ v₂ v₃ : Nat} (h : ∀ v ∈ [v₀, v₁, v₂, v₃], v < 64)
    (hs : Spells ss bs) :
    Spells (symbol v₀ :: symbol v₁ :: symbol v₂ :: symbol v₃ :: ss)
      (bytes [v₀, v₁, v₂, v₃] ++ bs) := by
  simp only [List.forall_mem_cons, List.not_mem_nil, false_imp_iff, implies_true, and_true] at h
  obtain ⟨h₀, h₁, h₂, h₃⟩ := h
  refine .group h₀ h₁ h₂ h₃ ?_ hs
  rw [UInt8.toNat_ofNat', UInt8.toNat_ofNat', UInt8.toNat_ofNat']
  omega

theorem spells_bytes {n : Nat} (h : ∀ v ∈ vs, v < 64) (hn : vs.length + n = 4)
    (hc : Canonical vs) : Spells (vs.map symbol ++ List.replicate n pad) (bytes vs) := by
  match vs, hc with
  | [v₀, v₁], hz =>
      obtain rfl : n = 2 := by simp only [List.length_cons, List.length_nil] at hn; omega
      refine .one (h v₀ (by simp)) (h v₁ (by simp)) ?_
      have h₀ := h v₀ (by simp)
      have h₁ := h v₁ (by simp)
      rw [Canonical] at hz
      rw [UInt8.toNat_ofNat']
      omega
  | [v₀, v₁, v₂], hz =>
      obtain rfl : n = 1 := by simp only [List.length_cons, List.length_nil] at hn; omega
      have h₀ := h v₀ (by simp)
      have h₁ := h v₁ (by simp)
      have h₂ := h v₂ (by simp)
      refine .two h₀ h₁ h₂ ?_
      rw [Canonical] at hz
      rw [UInt8.toNat_ofNat', UInt8.toNat_ofNat']
      omega
  | [v₀, v₁, v₂, v₃], _ =>
      obtain rfl : n = 0 := by simp only [List.length_cons, List.length_nil] at hn; omega
      exact spells_bytes_four h .nil

theorem eq_replicate_pad {padding : List UInt8} {n : Nat}
    (h : ¬(padding ≠ [] ∧ (n < 2 ∨ padding.any (· ≠ pad)))) :
    padding = List.replicate padding.length pad := by
  refine List.eq_replicate_length.2 fun b hb => ?_
  by_contra hne
  refine h ⟨List.ne_nil_of_mem hb, .inr ?_⟩
  rw [List.any_eq_true]
  exact ⟨b, hb, decide_eq_true hne⟩

theorem canonical_of_decodeLast (h : decodeLast offset ss = .ok bs) :
    ss = [] ∧ bs = [] ∨ ∃ vs n, ss = vs.map symbol ++ List.replicate n pad ∧ (∀ v ∈ vs, v < 64) ∧
      vs.length + n = 4 ∧ Canonical vs ∧ bs = bytes vs := by
  rw [decodeLast] at h
  have hss := List.takeWhile_append_dropWhile (p := (· ≠ pad)) (l := ss)
  generalize ss.takeWhile (· ≠ pad) = symbols at h hss
  generalize ss.dropWhile (· ≠ pad) = padding at h hss
  cases hv : values offset symbols with
  | error e =>
      rw [hv] at h
      cases h
  | ok vs =>
      obtain ⟨rfl, hlt⟩ := values_eq_ok hv
      simp only [hv] at h
      by_cases hp : padding ≠ [] ∧ (vs.length < 2 ∨ padding.any (· ≠ pad))
      · rw [if_pos hp] at h
        cases h
      rw [if_neg hp] at h
      have hpad := eq_replicate_pad hp
      rcases vs with _ | ⟨v₀, _ | ⟨v₁, vs⟩⟩
      · have hn : padding = [] := by
          by_contra hn
          exact hp ⟨hn, .inl (by decide)⟩
        cases h
        exact .inl ⟨by rw [← hss, hn]; rfl, rfl⟩
      · cases h
      by_cases hl : ss.length ≠ 4
      · simp only [if_pos hl] at h
        cases h
      simp only [if_neg hl] at h
      have hn : (v₀ :: v₁ :: vs).length + padding.length = 4 := by
        rw [← List.length_map symbol, ← List.length_append, hss]
        exact Decidable.not_not.1 hl
      rw [hpad] at hss
      refine .inr ⟨v₀ :: v₁ :: vs, padding.length, hss.symm, hlt, hn, ?_⟩
      rcases vs with _ | ⟨v₂, _ | ⟨v₃, _ | ⟨v₄, vs⟩⟩⟩
      · by_cases hz : v₁ % 16 = 0
        · simp only [List.map_cons, List.map_nil, if_pos hz] at h
          cases h
          exact ⟨hz, rfl⟩
        · simp only [List.map_cons, List.map_nil, if_neg hz] at h
          cases h
      · by_cases hz : v₂ % 4 = 0
        · simp only [List.map_cons, List.map_nil, if_pos hz] at h
          cases h
          exact ⟨hz, rfl⟩
        · simp only [List.map_cons, List.map_nil, if_neg hz] at h
          cases h
      · cases h
        exact ⟨trivial, rfl⟩
      · simp only [List.length_cons] at hn
        omega

theorem spells_of_decodeLast (h : decodeLast offset ss = .ok bs) : Spells ss bs := by
  rcases canonical_of_decodeLast h with ⟨rfl, rfl⟩ | ⟨vs, n, rfl, hlt, hn, hc, rfl⟩
  · exact .nil
  · exact spells_bytes hlt hn hc

theorem spells_of_decodeFrom (h : decodeFrom offset ss = .ok bs) : Spells ss bs := by
  fun_induction decodeFrom offset ss generalizing bs with
  | case1 offset a b c d e ss fault hv => cases h
  | case2 offset a b c d e ss vs hv ih =>
      obtain ⟨hs, hlt⟩ := values_eq_ok hv
      cases hr : decodeFrom (offset + 4) (e :: ss) with
      | error fault =>
          rw [hr] at h
          cases h
      | ok bs' =>
          rw [hr] at h
          cases h
          match vs with
          | [v₀, v₁, v₂, v₃] =>
              obtain ⟨rfl, rfl, rfl, rfl⟩ : a = symbol v₀ ∧ b = symbol v₁ ∧ c = symbol v₂ ∧
                  d = symbol v₃ := by
                simpa using hs
              exact spells_bytes_four hlt (ih hr)
  | case3 => exact spells_of_decodeLast h

theorem decode_eq_ok_iff : decode ss = .ok bs ↔ Spells ss bs := by
  constructor
  · intro h
    rw [decode] at h
    split at h
    · cases h
    · exact spells_of_decodeFrom h
  · intro h
    rw [h.eq_encode]
    exact decode_encode bs

end TilePuzzle.Base64
