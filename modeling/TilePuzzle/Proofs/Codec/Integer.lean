import TilePuzzle.Proofs.Codec.Decimal

namespace TilePuzzle.Decimal

variable {cs ds : List Char} {n : Nat} {z : Int}

/-- At most one sign and digits, with the integer that they denote by their places. -/
inductive Signed : List Char → Int → Prop
  | plain {ds : List Char} (hd : IsDigits ds) : Signed ds (denoted ds)
  | plus {ds : List Char} (hd : IsDigits ds) : Signed ('+' :: ds) (denoted ds)
  | minus {ds : List Char} (hd : IsDigits ds) : Signed ('-' :: ds) (-(denoted ds))

def shortest : List Char → List Char
  | '+' :: ds => canonical ds
  | '-' :: ds => if canonical ds = ['0'] then ['0'] else '-' :: canonical ds
  | ds => canonical ds

theorem nat?_eq_some_iff : nat? ds = some n ↔ IsDigits ds ∧ n = denoted ds := by
  constructor
  · intro h
    rw [nat?] at h
    split_ifs at h with hd
    cases h
    exact ⟨⟨hd.1, List.all_eq_true.1 hd.2⟩, value_eq_denoted ds⟩
  · rintro ⟨hd, rfl⟩
    exact nat?_of_isDigits hd

section Signs

def NoSign (cs : List Char) : Prop :=
  (∀ ds, cs ≠ '-' :: ds) ∧ ∀ ds, cs ≠ '+' :: ds

theorem sign_cases (cs : List Char) :
    (∃ ds, cs = '-' :: ds) ∨ (∃ ds, cs = '+' :: ds) ∨ NoSign cs := by
  by_cases hm : ∃ ds, cs = '-' :: ds
  · exact .inl hm
  by_cases hp : ∃ ds, cs = '+' :: ds
  · exact .inr (.inl hp)
  exact .inr (.inr ⟨not_exists.1 hm, not_exists.1 hp⟩)

theorem IsDigits.noSign (h : IsDigits ds) : NoSign ds := by
  constructor
  · rintro cs rfl
    exact absurd (h.2 '-' List.mem_cons_self) (by decide)
  · rintro cs rfl
    exact absurd (h.2 '+' List.mem_cons_self) (by decide)

theorem unsigned_of_noSign (h : NoSign cs) : unsigned cs = cs := by
  rw [unsigned]
  · exact h.1
  · exact h.2

theorem int?_minus (cs : List Char) :
    int? ('-' :: cs) = (nat? cs).map fun n : Nat => -(n : Int) := by
  rw [int?]
  cases nat? cs <;> rfl

theorem int?_plus (cs : List Char) : int? ('+' :: cs) = (nat? cs).map Int.ofNat := by
  rw [int?]
  cases nat? cs <;> rfl

theorem int?_of_noSign (h : NoSign cs) : int? cs = (nat? cs).map Int.ofNat := by
  rw [int?]
  · cases nat? cs <;> rfl
  · exact h.1
  · exact h.2

theorem looseInt?_of_noSign (h : NoSign cs) : looseInt? cs = (looseDigits? cs).map Int.ofNat := by
  rw [looseInt?]
  · exact h.1
  · exact h.2

theorem shortest_of_noSign (h : NoSign cs) : shortest cs = canonical cs := by
  rw [shortest]
  · exact h.2
  · exact h.1

end Signs

theorem int?_eq_some_iff : int? cs = some z ↔ Signed cs z := by
  constructor
  · intro h
    rcases sign_cases cs with ⟨ds, rfl⟩ | ⟨ds, rfl⟩ | hs
    · rw [int?_minus] at h
      obtain ⟨n, hn, rfl⟩ := Option.map_eq_some_iff.1 h
      obtain ⟨hd, rfl⟩ := nat?_eq_some_iff.1 hn
      exact .minus hd
    · rw [int?_plus] at h
      obtain ⟨n, hn, rfl⟩ := Option.map_eq_some_iff.1 h
      obtain ⟨hd, rfl⟩ := nat?_eq_some_iff.1 hn
      exact .plus hd
    · rw [int?_of_noSign hs] at h
      obtain ⟨n, hn, rfl⟩ := Option.map_eq_some_iff.1 h
      obtain ⟨hd, rfl⟩ := nat?_eq_some_iff.1 hn
      exact .plain hd
  · intro h
    cases h with
    | plain hd =>
        rw [int?_of_noSign hd.noSign, nat?_of_isDigits hd]
        rfl
    | plus hd =>
        rw [int?_plus, nat?_of_isDigits hd]
        rfl
    | minus hd =>
        rw [int?_minus, nat?_of_isDigits hd]
        rfl

theorem isSigned_iff : isSigned cs ↔ IsDigits (unsigned cs) := by
  rw [isSigned, Bool.and_eq_true, List.all_eq_true, Bool.not_eq_true', List.isEmpty_eq_false_iff,
    IsDigits]

theorem looseDigits?_eq (h : IsDigits ds) : looseDigits? ds = nat? ds := by
  obtain ⟨hne, hd⟩ := h
  have hu : ∀ d ∈ ds, d ≠ '_' := by
    rintro d hm rfl
    exact absurd (hd '_' hm) (by decide)
  have hk : ds.filter (· ≠ '_') = ds := List.filter_eq_self.2 (by simpa using hu)
  have hh : ¬(ds.head? = none ∨ ds.head? = some '_') := by
    rintro (hn | hn)
    · exact hne (List.head?_eq_none_iff.1 hn)
    · exact hu '_' (List.mem_of_mem_head? hn) rfl
  rw [looseDigits?, if_neg hh]
  simp only [hk, nat?, hne, ne_eq, not_false_eq_true, true_and]

/-- What passes the check is read the same by the loose reader. -/
theorem looseInt?_of_isSigned (h : isSigned cs) : looseInt? cs = int? cs := by
  rw [isSigned_iff] at h
  rcases sign_cases cs with ⟨ds, rfl⟩ | ⟨ds, rfl⟩ | hs
  · have hd : IsDigits ds := h
    rw [looseInt?, int?_minus, looseDigits?_eq hd]
  · have hd : IsDigits ds := h
    rw [looseInt?, int?_plus, looseDigits?_eq hd]
  · rw [unsigned_of_noSign hs] at h
    rw [looseInt?_of_noSign hs, int?_of_noSign hs, looseDigits?_eq h]

theorem Signed.isSigned (h : Signed cs z) : Decimal.isSigned cs := by
  rw [isSigned_iff]
  cases h with
  | plain hd =>
      rw [unsigned_of_noSign hd.noSign]
      exact hd
  | plus hd | minus hd => exact hd

theorem isSigned_iff_exists : isSigned cs ↔ ∃ z, Signed cs z := by
  constructor
  · intro h
    rw [isSigned_iff] at h
    rcases sign_cases cs with ⟨ds, rfl⟩ | ⟨ds, rfl⟩ | hs
    · exact ⟨_, .minus h⟩
    · exact ⟨_, .plus h⟩
    · rw [unsigned_of_noSign hs] at h
      exact ⟨_, .plain h⟩
  · rintro ⟨z, h⟩
    exact h.isSigned

theorem ofInt_denoted (h : IsDigits ds) : ofInt (denoted ds) = canonical ds := by
  rw [← value_eq_denoted, ← digits_value h.2]
  rfl

theorem ofInt_neg_denoted (h : IsDigits ds) : ofInt (-(denoted ds)) = shortest ('-' :: ds) := by
  have hc := digits_value h.2
  rw [shortest, ← value_eq_denoted, ← hc]
  cases value ds with
  | zero => rfl
  | succ n =>
      have h0 : digits (n + 1) ≠ ['0'] := fun h =>
        Nat.succ_ne_zero n (digits_injective (n := 0) h)
      rw [if_neg h0]
      rfl

theorem Signed.ofInt_eq (h : Signed cs z) : ofInt z = shortest cs := by
  cases h with
  | plain hd => rw [shortest_of_noSign hd.noSign, ofInt_denoted hd]
  | plus hd => exact ofInt_denoted hd
  | minus hd => exact ofInt_neg_denoted hd

section Words

variable {v : UInt64}

/-- At most one plus sign and digits, with the word that they denote by their places. -/
inductive IsWord : List Char → UInt64 → Prop
  | plain {ds : List Char} {v : UInt64} (hd : IsDigits ds) (hv : denoted ds = v.toNat) : IsWord ds v
  | plus {ds : List Char} {v : UInt64} (hd : IsDigits ds) (hv : denoted ds = v.toNat) :
      IsWord ('+' :: ds) v

theorem bind_ofNatLT_eq_some_iff :
    ((nat? ds).bind fun n => if h : n < UInt64.size then some (UInt64.ofNatLT n h) else none) =
      some v ↔ IsDigits ds ∧ denoted ds = v.toNat := by
  simp only [Option.bind_eq_some_iff, nat?_eq_some_iff]
  constructor
  · rintro ⟨_, ⟨hd, rfl⟩, h⟩
    split_ifs at h with hl
    cases h
    exact ⟨hd, UInt64.toNat_ofNatLT.symm⟩
  · rintro ⟨hd, hv⟩
    refine ⟨_, ⟨hd, rfl⟩, ?_⟩
    rw [hv, dif_pos v.toNat_lt_size, UInt64.ofNatLT_toNat]

theorem word?_eq_some_iff : word? cs = some v ↔ IsWord cs v := by
  constructor
  · intro h
    by_cases hp : ∃ ds, cs = '+' :: ds
    · obtain ⟨ds, rfl⟩ := hp
      obtain ⟨hd, hv⟩ := bind_ofNatLT_eq_some_iff.1 h
      exact .plus hd hv
    · rw [word?_of_noPlus (not_exists.1 hp)] at h
      obtain ⟨hd, hv⟩ := bind_ofNatLT_eq_some_iff.1 h
      exact .plain hd hv
  · intro h
    cases h with
    | plain hd hv =>
        rw [word?_of_noPlus hd.noSign.2]
        exact bind_ofNatLT_eq_some_iff.2 ⟨hd, hv⟩
    | plus hd hv => exact bind_ofNatLT_eq_some_iff.2 ⟨hd, hv⟩

end Words

end TilePuzzle.Decimal
