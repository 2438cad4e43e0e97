import TilePuzzle.Frame
import TilePuzzle.Proofs.Codec.Base64
import TilePuzzle.Proofs.Codec.Utf8
import TilePuzzle.Proofs.Text.Plain

namespace TilePuzzle

theorem Utf8.encode_map_ofNat {bs : List UInt8} (h : ∀ b ∈ bs, b.toNat < 0x80) :
    encode (bs.map fun b => Char.ofNat b.toNat) = bs := by
  induction bs with
  | nil => rfl
  | cons b bs ih =>
      obtain ⟨hb, hbs⟩ := List.forall_mem_cons.1 h
      have he := encodeChar_one hb
      rw [List.map_cons, encode, List.flatMap_cons, he]
      exact congrArg (b :: ·) (ih hbs)

namespace Frame

theorem symbols_plain (bs : List UInt8) :
    ∀ b ∈ Base64.encode bs, b.toNat < 0x80 ∧ Text.isSpace (Char.ofNat b.toNat) = false :=
  Base64.forall_mem_encode (by decide) (by decide) bs

theorem decode_encode (text : String) : decode (encode text) = .ok text := by
  have hp := symbols_plain (Utf8.encode text.toList)
  have ht : Text.trim ((Base64.encode (Utf8.encode text.toList)).map fun b => Char.ofNat b.toNat) =
      (Base64.encode (Utf8.encode text.toList)).map fun b => Char.ofNat b.toNat := by
    apply Text.trim_eq_self
    intro c hc
    obtain ⟨b, hb, rfl⟩ := List.mem_map.1 hc
    exact (hp b hb).2
  have hu := Utf8.encode_map_ofNat fun b hb => (hp b hb).1
  simp only [decode, encode, String.toList_ofList, ht, hu, Base64.decode_encode,
    Utf8.decode_encode, String.ofList_toList]

end Frame

end TilePuzzle
