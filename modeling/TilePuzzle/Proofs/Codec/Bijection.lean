import TilePuzzle.Proofs.Codec.Frame
import TilePuzzle.Proofs.Codec.Spelling

namespace TilePuzzle.Frame

/-- The symbols are those of base64 in its canonical form, and the bytes they spell are text. -/
def Holds (raw text : String) : Prop :=
  Base64.Spells (Utf8.encode (Text.trim raw.toList)) (Utf8.encode text.toList)

variable {raw text : String}

theorem utf8_encode_encode (text : String) :
    Utf8.encode (encode text).toList = Base64.encode (Utf8.encode text.toList) := by
  have hp := symbols_plain (Utf8.encode text.toList)
  rw [encode, String.toList_ofList]
  exact Utf8.encode_map_ofNat fun b hb => (hp b hb).1

theorem holds_iff : Holds raw text ↔ Text.trim raw.toList = (encode text).toList := by
  constructor
  · intro h
    apply Utf8.encode_injective
    rw [utf8_encode_encode]
    exact h.eq_encode
  · intro h
    rw [Holds, h, utf8_encode_encode]
    exact Base64.spells_encode _

theorem holds_or_malformed (raw : String) :
    (∃ text, decode raw = .ok text ∧ Holds raw text) ∨
      ∃ reason, decode raw = .error (.malformed reason) := by
  cases hb : Base64.decode (Utf8.encode (Text.trim raw.toList)) with
  | error fault =>
      rw [decode, hb]
      exact .inr ⟨_, rfl⟩
  | ok bytes =>
      cases hu : Utf8.decode bytes with
      | error fault =>
          simp only [decode, hb, hu]
          exact .inr ⟨_, rfl⟩
      | ok cs =>
          have hd : decode raw = .ok (String.ofList cs) := by simp only [decode, hb, hu]
          refine .inl ⟨_, hd, ?_⟩
          rw [Utf8.decode_eq_ok_iff] at hu
          rw [Holds, String.toList_ofList, ← hu]
          exact Base64.decode_eq_ok_iff.1 hb

theorem decode_of_holds (h : Holds raw text) : decode raw = .ok text := by
  have hb := Base64.decode_eq_ok_iff.2 h
  simp only [decode, hb, Utf8.decode_encode, String.ofList_toList]

theorem decode_eq_ok_iff : decode raw = .ok text ↔ Holds raw text := by
  constructor
  · intro h
    rcases holds_or_malformed raw with ⟨text', hd, ht⟩ | ⟨reason, hd⟩
    · rw [h] at hd
      cases hd
      exact ht
    · rw [h] at hd
      cases hd
  · exact decode_of_holds

/-- Decoding inverts encoding on both sides: the frames that are accepted are the encodings of
texts with white space around them, and all others are malformed. -/
theorem decode_inverts_encode :
    (∀ raw text, decode raw = .ok text ↔ Text.trim raw.toList = (encode text).toList) ∧
      (∀ text, decode (encode text) = .ok text) ∧
      (∀ raw text, decode raw = .ok text → encode text = String.ofList (Text.trim raw.toList)) ∧
      (∀ raw raw' text text', decode raw = .ok text → decode raw' = .ok text' →
        Text.trim raw.toList ≠ Text.trim raw'.toList → text ≠ text') ∧
      ∀ raw, (¬∃ text, Holds raw text) → ∃ reason, decode raw = .error (.malformed reason) := by
  refine ⟨fun raw text => ?_, fun text => ?_, fun raw text h => ?_, ?_, fun raw h => ?_⟩
  · rw [decode_eq_ok_iff, holds_iff]
  · exact decode_encode text
  · rw [decode_eq_ok_iff, holds_iff] at h
    rw [h, String.ofList_toList]
  · rintro raw raw' text text' h h' hne rfl
    rw [decode_eq_ok_iff, holds_iff] at h h'
    exact hne (h.trans h'.symm)
  · rcases holds_or_malformed raw with ⟨text, -, ht⟩ | hm
    · exact absurd ⟨text, ht⟩ h
    · exact hm

/-- The letter `A` is spelled `QQ==`; here a bit that belongs to no byte is not zero. -/
example : decode "QR==" = .error (.malformed (.base64 (.lastSymbol 82 1))) := by
  decide

end TilePuzzle.Frame
