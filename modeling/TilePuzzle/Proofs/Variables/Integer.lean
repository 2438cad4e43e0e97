import TilePuzzle.Proofs.Codec.Integer
import TilePuzzle.Variables

namespace TilePuzzle.Variables

variable {text : String} {z : Int}

def Numeric (text : String) : Prop :=
  ∃ z, Decimal.Signed text.toList z

theorem numeric_ofInt (z : Int) : Numeric (String.ofList (Decimal.ofInt z)) := by
  refine ⟨z, ?_⟩
  rw [String.toList_ofList, ← Decimal.int?_eq_some_iff, Decimal.int?_ofInt]

theorem integer_eq_some (h : Decimal.int? text.toList = some z) : integer text = .ok z := by
  have hs : Decimal.isSigned text.toList := (Decimal.int?_eq_some_iff.1 h).isSigned
  rw [integer, if_pos hs, Decimal.looseInt?_of_isSigned hs, h]

theorem integer_eq_none (h : Decimal.int? text.toList = none) :
    integer text = .error (.nonNumeric text) := by
  rw [integer]
  split_ifs with hs
  · rw [Decimal.looseInt?_of_isSigned hs, h]
  · rfl

theorem integer_eq_ok_iff : integer text = .ok z ↔ Decimal.Signed text.toList z := by
  rw [← Decimal.int?_eq_some_iff]
  constructor
  · intro h
    cases hz : Decimal.int? text.toList with
    | none =>
        rw [integer_eq_none hz] at h
        cases h
    | some z' =>
        rw [integer_eq_some hz] at h
        cases h
        rfl
  · exact integer_eq_some

theorem integer_of_not_signed (h : ¬∃ z, Decimal.Signed text.toList z) :
    integer text = .error (.nonNumeric text) := by
  rw [integer, if_neg]
  rwa [Decimal.isSigned_iff_exists]

/-- A text is an integer exactly if it consists of digits after at most one sign. The digits count by
their places, and any other text is reported as a whole. The check before the reader passes only what
the reader takes. An integer is read from the text that it is written as, and every text that it is
read from is that text, but for a plus sign, leading zeros and the sign of zero. -/
theorem integer_reads_numerals :
    (∀ text z, integer text = .ok z ↔ Decimal.Signed text.toList z) ∧
    (∀ text, (¬∃ z, Decimal.Signed text.toList z) → integer text = .error (.nonNumeric text)) ∧
    (∀ text : String, Decimal.isSigned text.toList → Decimal.looseInt? text.toList ≠ none) ∧
    (∀ z, integer (String.ofList (Decimal.ofInt z)) = .ok z) ∧
    ∀ text z, integer text = .ok z → Decimal.ofInt z = Decimal.shortest text.toList := by
  refine ⟨fun text z => integer_eq_ok_iff, fun text => integer_of_not_signed, ?_, ?_, ?_⟩
  · intro text h
    obtain ⟨z, hz⟩ := Decimal.isSigned_iff_exists.1 h
    rw [Decimal.looseInt?_of_isSigned h, Decimal.int?_eq_some_iff.2 hz]
    exact Option.some_ne_none z
  · intro z
    apply integer_eq_some
    rw [String.toList_ofList, Decimal.int?_ofInt]
  · intro text z h
    exact (integer_eq_ok_iff.1 h).ofInt_eq

/-- The reader alone would take this text for a thousand. -/
example : Decimal.looseInt? "1_000".toList = some 1000 ∧
    integer "1_000" = .error (.nonNumeric "1_000") := by
  decide

end TilePuzzle.Variables
