import Mathlib.Data.List.Induction
import Mathlib.Data.Nat.Digits.Defs
import TilePuzzle.Decimal

namespace TilePuzzle.Decimal

variable {ds : List Char} {d : Char} {n : Nat}

/-- The number that digits denote by their places, the last of which counts once. -/
def denoted (ds : List Char) : Nat :=
  Nat.ofDigits 10 (ds.reverse.map fun d => d.toNat - '0'.toNat)

def canonical (ds : List Char) : List Char :=
  match ds.dropWhile (· = '0') with
  | [] => ['0']
  | ds => ds

def IsDigits (ds : List Char) : Prop :=
  ds ≠ [] ∧ ∀ d ∈ ds, d.isDigit

structure IsNumeral (ds : List Char) : Prop where
  ne_nil : ds ≠ []
  isDigit : ∀ d ∈ ds, d.isDigit
  lead : ds.head? = some '0' → ds = ['0']

/-- A numeral, or a minus sign before the numeral of a number other than zero. -/
inductive IsInteger : List Char → Prop
  | nat {ds : List Char} (h : IsNumeral ds) : IsInteger ds
  | neg {ds : List Char} (h : IsNumeral ds) (h0 : ds ≠ ['0']) : IsInteger ('-' :: ds)

theorem isDigit_digits (n : Nat) : ∀ d ∈ digits n, d.isDigit :=
  fun _ => Nat.isDigit_of_mem_toDigits (by decide) (by decide)

theorem digits_ne_nil (n : Nat) : digits n ≠ [] :=
  Nat.toDigits_ne_nil

theorem value_concat (ds : List Char) (d : Char) :
    value (ds ++ [d]) = 10 * value ds + (d.toNat - '0'.toNat) := by
  rw [value, Nat.ofDigitChars_append, Nat.ofDigitChars_cons, Nat.ofDigitChars_nil, value]

theorem value_append (xs ys : List Char) :
    value (xs ++ ys) = value xs * 10 ^ ys.length + value ys := by
  rw [value, Nat.ofDigitChars_append, Nat.ofDigitChars_eq_ofDigitChars_zero, Nat.mul_comm]
  rfl

theorem value_eq_denoted (ds : List Char) : value ds = denoted ds := by
  induction ds using List.reverseRecOn with
  | nil => rfl
  | append_singleton ds d ih =>
      rw [value_concat, ih, denoted, denoted, List.reverse_append, List.reverse_singleton,
        List.singleton_append, List.map_cons, Nat.ofDigits_cons, Nat.add_comm]

theorem value_dropWhile_zero (ds : List Char) : value (ds.dropWhile (· = '0')) = value ds := by
  induction ds with
  | nil => rfl
  | cons d ds ih =>
      by_cases hd : d = '0'
      · subst hd
        rw [List.dropWhile_cons_of_pos (by simp), ih]
        rfl
      · rw [List.dropWhile_cons_of_neg (by simpa using hd)]

theorem exists_digitChar (h : d.isDigit) : ∃ n < 10, d = n.digitChar := by
  obtain ⟨hl, hu⟩ := Char.isDigit_iff_toNat.1 h
  have h0 : '0'.toNat = 48 := rfl
  have h9 : '9'.toNat = 57 := rfl
  refine ⟨d.toNat - 48, by omega, Char.toNat_inj.1 ?_⟩
  rw [Nat.toNat_digitChar_of_lt_ten (by omega)]
  omega

theorem value_digitChar (h : n < 10) : value [n.digitChar] = n := by
  rw [value, Nat.ofDigitChars_cons_digitChar_of_lt_ten h, Nat.ofDigitChars_nil, Nat.mul_zero,
    Nat.zero_add]

theorem value_pos (hd : d.isDigit) (h0 : d ≠ '0') (ds : List Char) : 0 < value (d :: ds) := by
  obtain ⟨n, hn, rfl⟩ := exists_digitChar hd
  have hpos : 0 < n := Nat.pos_of_ne_zero fun h => h0 (Nat.digitChar_eq_zero.2 h)
  rw [← List.singleton_append, value_append, value_digitChar hn]
  positivity

theorem digits_value_cons (h : ∀ c ∈ d :: ds, c.isDigit) (h0 : d ≠ '0') :
    digits (value (d :: ds)) = d :: ds := by
  induction ds using List.reverseRecOn with
  | nil =>
      obtain ⟨n, hn, rfl⟩ := exists_digitChar (h d List.mem_cons_self)
      rw [value_digitChar hn]
      exact Nat.toDigits_of_lt_base hn
  | append_singleton ds e ih =>
      have hpos := value_pos (h d List.mem_cons_self) h0 ds
      obtain ⟨n, hn, rfl⟩ := exists_digitChar (h e (by simp))
      have hi := ih fun c hc => h c (by
        rw [← List.cons_append]
        exact List.mem_append_left _ hc)
      have hv : (n.digitChar).toNat - '0'.toNat = n := Nat.toNat_digitChar_sub_48_of_lt_ten hn
      rw [← List.cons_append, value_concat, hv, digits,
        ← Nat.toDigits_append_toDigits (by decide) hpos hn, Nat.toDigits_of_lt_base hn]
      exact congrArg (· ++ _) hi

theorem ne_zero_of_dropWhile {e : Char} {es : List Char} (h : ds.dropWhile (· = '0') = e :: es) :
    e ≠ '0' := by
  have hn := List.head?_dropWhile_not (fun c => decide (c = '0')) ds
  rw [h] at hn
  simpa using hn

theorem digits_value (h : ∀ c ∈ ds, c.isDigit) : digits (value ds) = canonical ds := by
  rw [← value_dropWhile_zero, canonical]
  cases hd : ds.dropWhile (· = '0') with
  | nil => rfl
  | cons e es =>
      have h0 : e ≠ '0' := ne_zero_of_dropWhile hd
      have hs : e :: es <:+ ds := hd ▸ List.dropWhile_suffix _
      exact digits_value_cons (fun c hc => h c (hs.subset hc)) h0

theorem canonical_lead (h : (canonical ds).head? = some '0') : canonical ds = ['0'] := by
  rw [canonical] at h ⊢
  cases hd : ds.dropWhile (· = '0') with
  | nil => rfl
  | cons e es =>
      rw [hd] at h
      exact absurd (Option.some.inj h) (ne_zero_of_dropWhile hd)

theorem isNumeral_digits (n : Nat) : IsNumeral (digits n) := by
  refine ⟨digits_ne_nil n, isDigit_digits n, ?_⟩
  have hc := digits_value (isDigit_digits n)
  rw [value_digits] at hc
  rw [hc]
  exact canonical_lead

theorem isInteger_ofInt (z : Int) : IsInteger (ofInt z) := by
  cases z with
  | ofNat n => exact .nat (isNumeral_digits n)
  | negSucc n =>
      refine .neg (isNumeral_digits (n + 1)) fun h => ?_
      have hz : digits (n + 1) = digits 0 := h
      exact Nat.succ_ne_zero n (digits_injective hz)

theorem nat?_of_isDigits (h : IsDigits ds) : nat? ds = some (denoted ds) := by
  rw [nat?, if_pos ⟨h.1, List.all_eq_true.2 h.2⟩, value_eq_denoted]

theorem nat?_digits (n : Nat) : nat? (digits n) = some n := by
  rw [nat?_of_isDigits ⟨digits_ne_nil n, isDigit_digits n⟩, ← value_eq_denoted, value_digits]

theorem word?_of_noPlus (h : ∀ cs, ds ≠ '+' :: cs) : word? ds =
    (nat? ds).bind fun n => if h : n < UInt64.size then some (UInt64.ofNatLT n h) else none := by
  rw [word?]
  exact h

theorem word?_of_isDigit (h : ∀ d ∈ ds, d.isDigit) : word? ds =
    (nat? ds).bind fun n => if h : n < UInt64.size then some (UInt64.ofNatLT n h) else none := by
  apply word?_of_noPlus
  rintro cs rfl
  exact absurd (h '+' List.mem_cons_self) (by decide)

theorem word?_eq_some {v : UInt64} (hne : ds ≠ []) (h : ∀ d ∈ ds, d.isDigit)
    (hv : denoted ds = v.toNat) : word? ds = some v := by
  rw [word?_of_isDigit h, nat?_of_isDigits ⟨hne, h⟩, Option.bind_some, hv,
    dif_pos v.toNat_lt_size, UInt64.ofNatLT_toNat]

theorem word?_eq_none (h : ∀ d ∈ ds, d.isDigit) (hv : ds = [] ∨ 2 ^ 64 ≤ denoted ds) :
    word? ds = none := by
  by_cases hne : ds = []
  · rw [hne]
    rfl
  · have hlarge : ¬denoted ds < UInt64.size := Nat.not_lt.2 (hv.resolve_left hne)
    rw [word?_of_isDigit h, nat?_of_isDigits ⟨hne, h⟩, Option.bind_some, dif_neg hlarge]

theorem word?_digits (v : UInt64) : word? (digits v.toNat) = some v := by
  have hd : denoted (digits v.toNat) = v.toNat := by rw [← value_eq_denoted, value_digits]
  exact word?_eq_some (digits_ne_nil _) (isDigit_digits _) hd

theorem int?_ofInt (z : Int) : int? (ofInt z) = some z := by
  cases z with
  | ofNat n =>
      have hd := isDigit_digits n
      have hn := nat?_digits n
      rw [ofInt]
      generalize digits n = ds at hd hn
      rw [int?]
      · rw [hn]
        rfl
      · rintro ds rfl
        exact absurd (hd '-' List.mem_cons_self) (by decide)
      · rintro ds rfl
        exact absurd (hd '+' List.mem_cons_self) (by decide)
  | negSucc n =>
      rw [ofInt, int?, nat?_digits]
      rfl

end TilePuzzle.Decimal
