import TilePuzzle.Proofs.Answer.Textual

namespace TilePuzzle

namespace Decimal

variable {n : Nat}

def digitValue (d : Char) : Nat :=
  d.toNat - '0'.toNat

theorem digitValue_digitChar {k : Nat} (h : k < 10) : digitValue k.digitChar = k :=
  Nat.toNat_digitChar_sub_48_of_lt_ten h

theorem digitValue_lt {d : Char} (h : d.isDigit) : digitValue d < 10 := by
  obtain ⟨k, hk, rfl⟩ := exists_digitChar h
  rwa [digitValue_digitChar hk]

theorem eq_zero_of_digitValue {d : Char} (h : d.isDigit) (hz : digitValue d = 0) : d = '0' := by
  obtain ⟨k, hk, rfl⟩ := exists_digitChar h
  rw [digitValue_digitChar hk] at hz
  exact Nat.digitChar_eq_zero.2 hz

theorem digitValue_head (h : n ≠ 0) : digitValue ((digits n).head (digits_ne_nil n)) ≠ 0 := by
  intro hz
  have hn := isNumeral_digits n
  have hd := eq_zero_of_digitValue (hn.isDigit _ (List.head_mem _)) hz
  have h0 : digits n = digits 0 := hn.lead ((List.head?_eq_some_head _).trans (congrArg some hd))
  exact h (digits_injective h0)

theorem natDigits_eq (h : n ≠ 0) : Nat.digits 10 n = (digits n).reverse.map digitValue := by
  have hn : Nat.ofDigits 10 ((digits n).reverse.map digitValue) = n :=
    (value_eq_denoted (digits n)).symm.trans (value_digits n)
  have hd : ∀ k ∈ (digits n).reverse.map digitValue, k < 10 := by
    intro k hk
    obtain ⟨d, hd, rfl⟩ := List.mem_map.1 hk
    exact digitValue_lt (isDigit_digits n d (List.mem_reverse.1 hd))
  have hl : ∀ hne : (digits n).reverse.map digitValue ≠ [],
      ((digits n).reverse.map digitValue).getLast hne ≠ 0 := by
    intro hne
    rw [List.getLast_map, List.getLast_reverse]
    exact digitValue_head h
  conv_lhs => rw [← hn]
  exact Nat.digits_ofDigits 10 (by decide) _ hd hl

end Decimal

namespace Answer

open Decimal (digitValue)

/-- The digit in the highest place; zero for zero. -/
def leadingDigit (n : Nat) : Nat :=
  (Nat.digits 10 n).getLast?.getD 0

def lastDigits (k n : Nat) : Nat :=
  Nat.ofDigits 10 ((Nat.digits 10 n).take k)

theorem leadingDigit_eq (n : Nat) :
    leadingDigit n = ((Decimal.digits n).head?.map digitValue).getD 0 := by
  by_cases h : n = 0
  · subst h
    rfl
  · rw [leadingDigit, Decimal.natDigits_eq h, List.getLast?_map, List.getLast?_reverse]

/-- The last digit decides modulo five, and the last digit of a reversal is the first one. -/
theorem value_reverse_mod_five (ds : List Char) :
    Decimal.value ds.reverse % 5 = (ds.head?.map digitValue).getD 0 % 5 := by
  cases ds with
  | nil => rfl
  | cons d ds =>
      rw [List.reverse_cons, Decimal.value_concat, ← digitValue, List.head?_cons, Option.map_some,
        Option.getD_some]
      omega

theorem sessionId_eq (n : Nat) :
    sessionId n = (leadingDigit n % 5 + 99) * (leadingDigit n % 5) := by
  have hl : 0 < min (Decimal.digits n).length maxShift :=
    lt_min (List.length_pos_iff.2 (Decimal.digits_ne_nil n)) (by decide)
  have hr : (n * Nat.pow 10 (min (Decimal.digits n).length maxShift) +
      Decimal.value (Decimal.digits n).reverse) % 5 = leadingDigit n % 5 := by
    rw [leadingDigit_eq, ← value_reverse_mod_five]
    exact shift_mod_five n _ hl
  rw [sessionId, hr]

theorem tokenIndex_eq (n : Nat) : tokenIndex n = lastDigits 3 n % 8 := by
  rw [lastDigits, ← Nat.self_mod_pow_eq_ofDigits_take 3 n (by decide),
    Nat.mod_mod_of_dvd n (by decide)]
  rfl

end Answer

namespace Derivation

open Answer

variable {tiles : List Tile} {d : Derivation}

theorem parts_of_ofTiles (h : ofTiles tiles = .ok d) :
    d.sessionId = Answer.sessionId (combinedNumber tiles) ∧
      d.index = tokenIndex (combinedNumber tiles) := by
  simp only [ofTiles] at h
  split_ifs at h
  split at h
  · cases h
  · cases h
    exact ⟨rfl, rfl⟩

end Derivation

namespace Answer

/-- Of the number that tiles form, the first digit and the last three are all that the session
number and the index of their derivation depend on. -/
theorem ends_decide :
    (∀ n, sessionId n = (leadingDigit n % 5 + 99) * (leadingDigit n % 5)) ∧
    (∀ tiles, tokenIndex (combinedNumber tiles) = lastDigits 3 (combinedNumber tiles) % 8) ∧
    (∀ tiles d, Derivation.ofTiles tiles = .ok d → d.sessionId = sessionId (combinedNumber tiles) ∧
      d.index = tokenIndex (combinedNumber tiles)) ∧
    ∀ tiles tiles', leadingDigit (combinedNumber tiles) = leadingDigit (combinedNumber tiles') →
      lastDigits 3 (combinedNumber tiles) = lastDigits 3 (combinedNumber tiles') →
      sessionId (combinedNumber tiles) = sessionId (combinedNumber tiles') ∧
      tokenIndex (combinedNumber tiles) = tokenIndex (combinedNumber tiles') ∧
      ∀ d d', Derivation.ofTiles tiles = .ok d → Derivation.ofTiles tiles' = .ok d' →
        d.sessionId = d'.sessionId ∧ d.index = d'.index := by
  refine ⟨sessionId_eq, fun tiles => tokenIndex_eq _, fun tiles d => Derivation.parts_of_ofTiles,
    fun tiles tiles' hl ht => ?_⟩
  have hs : sessionId (combinedNumber tiles) = sessionId (combinedNumber tiles') := by
    rw [sessionId_eq, hl, ← sessionId_eq]
  have hi : tokenIndex (combinedNumber tiles) = tokenIndex (combinedNumber tiles') := by
    rw [tokenIndex_eq, ht, ← tokenIndex_eq]
  refine ⟨hs, hi, fun d d' hd hd' => ?_⟩
  obtain ⟨hds, hdi⟩ := Derivation.parts_of_ofTiles hd
  obtain ⟨hds', hdi'⟩ := Derivation.parts_of_ofTiles hd'
  exact ⟨hds.trans (hs.trans hds'.symm), hdi.trans (hi.trans hdi'.symm)⟩

end Answer

end TilePuzzle
