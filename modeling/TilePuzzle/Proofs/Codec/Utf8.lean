import Mathlib.Data.UInt
import TilePuzzle.Utf8

namespace TilePuzzle.Utf8

variable {b b₁ b₂ b₃ : UInt8}

theorem isContinuation_iff : isContinuation b ↔ 0x80 ≤ b.toNat ∧ b.toNat ≤ 0xBF := by
  simp [isContinuation, UInt8.le_iff_toNat_le]

/-- Overlong forms, surrogates and code points beyond the last differ from others in their second
byte. -/
theorem follows_iff : follows b b₁ ↔
    (if b.toNat = 0xE0 then 0xA0 else if b.toNat = 0xF0 then 0x90 else 0x80) ≤ b₁.toNat ∧
      b₁.toNat ≤ if b.toNat = 0xED then 0x9F else if b.toNat = 0xF4 then 0x8F else 0xBF := by
  simp only [follows, ← UInt8.toNat_inj, isContinuation]
  split_ifs <;> simp_all [UInt8.le_iff_toNat_le]

theorem not_ascii (h : 0xC2 ≤ b.toNat) : ¬b < 0x80 := by
  rw [UInt8.lt_iff_toNat_lt]
  exact Nat.not_lt.2 (Nat.le_trans (by decide) h)

theorem not_stray (h : 0xC2 ≤ b.toNat ∧ b.toNat ≤ 0xF4) : ¬(b < 0xC2 || 0xF4 < b) := by
  simp only [UInt8.lt_iff_toNat_lt, Bool.or_eq_true, decide_eq_true_eq]
  exact not_or.2 ⟨Nat.not_lt.2 h.1, Nat.not_lt.2 h.2⟩

theorem head_one (bs : List UInt8) (h : b.toNat < 0x80) :
    head b bs = .char (Char.ofNat b.toNat) 0 := by
  unfold head
  rw [if_pos (UInt8.lt_iff_toNat_lt.2 h)]

theorem head_two (bs : List UInt8) (h : 0xC2 ≤ b.toNat ∧ b.toNat < 0xE0) (h₁ : follows b b₁) :
    head b (b₁ :: bs) = .char (scalar (b.toNat % 32) [b₁]) 1 := by
  have hs : b < 0xE0 := UInt8.lt_iff_toNat_lt.2 h.2
  unfold head
  rw [if_neg (not_ascii h.1), if_neg (not_stray (by omega))]
  simp only [h₁, hs, Bool.not_true, Bool.false_eq_true, if_false, if_true]

theorem head_three (bs : List UInt8) (h : 0xE0 ≤ b.toNat ∧ b.toNat < 0xF0)
    (h₁ : follows b b₁) (h₂ : isContinuation b₂) :
    head b (b₁ :: b₂ :: bs) = .char (scalar (b.toNat % 16) [b₁, b₂]) 2 := by
  have hl : ¬b < 0xE0 := fun hb => Nat.not_lt.2 h.1 (UInt8.lt_iff_toNat_lt.1 hb)
  have hs : b < 0xF0 := UInt8.lt_iff_toNat_lt.2 h.2
  unfold head
  rw [if_neg (not_ascii (by omega)), if_neg (not_stray (by omega))]
  simp only [h₁, h₂, hl, hs, Bool.not_true, Bool.false_eq_true, if_false, if_true]

theorem head_four (bs : List UInt8) (h : 0xF0 ≤ b.toNat ∧ b.toNat ≤ 0xF4)
    (h₁ : follows b b₁) (h₂ : isContinuation b₂) (h₃ : isContinuation b₃) :
    head b (b₁ :: b₂ :: b₃ :: bs) = .char (scalar (b.toNat % 8) [b₁, b₂, b₃]) 3 := by
  have hl : ¬b < 0xE0 := fun hb =>
    Nat.not_lt.2 (Nat.le_trans (by decide) h.1) (UInt8.lt_iff_toNat_lt.1 hb)
  have hs : ¬b < 0xF0 := fun hb => Nat.not_lt.2 h.1 (UInt8.lt_iff_toNat_lt.1 hb)
  unfold head
  rw [if_neg (not_ascii (by omega)), if_neg (not_stray (by omega))]
  simp only [h₁, h₂, h₃, hl, hs, Bool.not_true, Bool.false_eq_true, if_false]

theorem toNat_byte {n : Nat} (h : n < 256) : (UInt8.ofNat n).toNat = n :=
  UInt8.toNat_ofNat_of_lt h

def sextet (n : Nat) : UInt8 := .ofNat (n % 64 + 128)

@[simp]
theorem toNat_sextet (n : Nat) : (sextet n).toNat = n % 64 + 128 :=
  toNat_byte (by omega)

theorem isContinuation_sextet (n : Nat) : isContinuation (sextet n) := by
  rw [isContinuation_iff, toNat_sextet]
  omega

variable {n : Nat}

theorem head_ofNat_two (bs : List UInt8) (h : 0x80 ≤ n ∧ n ≤ 0x7FF) :
    head (.ofNat (n / 64 % 32 + 0xC0)) (sextet n :: bs) = .char (Char.ofNat n) 1 := by
  have hb := toNat_byte (n := n / 64 % 32 + 0xC0) (by omega)
  rw [head_two bs (by omega), hb, scalar]
  · simp only [List.foldl_cons, List.foldl_nil, toNat_sextet]
    congr 2
    omega
  · rw [follows_iff, hb, toNat_sextet]
    split_ifs <;> omega

theorem head_ofNat_three (bs : List UInt8) (h : 0x800 ≤ n ∧ n ≤ 0xFFFF)
    (hn : n < 0xD800 ∨ 0xDFFF < n) :
    head (.ofNat (n / 4096 % 16 + 0xE0)) (sextet (n / 64) :: sextet n :: bs) =
      .char (Char.ofNat n) 2 := by
  have hb := toNat_byte (n := n / 4096 % 16 + 0xE0) (by omega)
  rw [head_three bs (by omega) ?_ (isContinuation_sextet n), hb, scalar]
  · simp only [List.foldl_cons, List.foldl_nil, toNat_sextet]
    congr 2
    omega
  · rw [follows_iff, hb, toNat_sextet]
    split_ifs <;> omega

theorem head_ofNat_four (bs : List UInt8) (h : 0x10000 ≤ n ∧ n < 0x110000) :
    head (.ofNat (n / 262144 % 8 + 0xF0))
      (sextet (n / 4096) :: sextet (n / 64) :: sextet n :: bs) = .char (Char.ofNat n) 3 := by
  have hb := toNat_byte (n := n / 262144 % 8 + 0xF0) (by omega)
  rw [head_four bs (by omega) ?_ (isContinuation_sextet _) (isContinuation_sextet n), hb, scalar]
  · simp only [List.foldl_cons, List.foldl_nil, toNat_sextet]
    congr 2
    omega
  · rw [follows_iff, hb, toNat_sextet]
    split_ifs <;> omega

theorem head_encodeChar (c : Char) (bs : List UInt8) :
    ∃ b cs, String.utf8EncodeChar c = b :: cs ∧ head b (cs ++ bs) = .char c cs.length := by
  have hv : c.val.toNat < 0xD800 ∨ 0xDFFF < c.val.toNat ∧ c.val.toNat < 0x110000 := c.valid
  have hc : Char.ofNat c.val.toNat = c := Char.ofNat_toNat c
  rw [String.utf8EncodeChar]
  split_ifs with h1 h2 h3
  · have hb := toNat_byte (n := c.val.toNat) (by omega)
    refine ⟨_, _, rfl, ?_⟩
    rw [head_one _ (by omega), hb, hc, List.length_nil]
  · refine ⟨_, [sextet c.val.toNat], rfl, ?_⟩
    rw [List.singleton_append, head_ofNat_two bs (by omega), hc, List.length_singleton]
  · refine ⟨_, [sextet (c.val.toNat / 64), sextet c.val.toNat], rfl, ?_⟩
    have h := head_ofNat_three bs (n := c.val.toNat) (by omega) (by omega)
    rwa [hc] at h
  · refine ⟨_, [sextet (c.val.toNat / 4096), sextet (c.val.toNat / 64), sextet c.val.toNat], rfl,
      ?_⟩
    have h := head_ofNat_four bs (n := c.val.toNat) (by omega)
    rwa [hc] at h

@[simp]
theorem encode_nil : encode [] = [] := rfl

theorem encode_cons (c : Char) (cs : List Char) :
    encode (c :: cs) = String.utf8EncodeChar c ++ encode cs :=
  List.flatMap_cons

theorem encode_append (cs ds : List Char) : encode (cs ++ ds) = encode cs ++ encode ds :=
  List.flatMap_append

theorem byteLength_append (cs ds : List Char) :
    byteLength (cs ++ ds) = byteLength cs + byteLength ds := by
  rw [byteLength, encode_append, List.length_append]
  rfl

theorem byteLength_pos (c : Char) : 0 < byteLength [c] := by
  have hc : byteLength [c] = c.utf8Size := by
    rw [byteLength, encode_cons, encode_nil, List.append_nil, String.length_utf8EncodeChar]
  rw [hc]
  exact c.utf8Size_pos

theorem decodeFrom_encode (index : Nat) (cs : List Char) :
    decodeFrom index (encode cs) = .ok cs := by
  induction cs generalizing index with
  | nil => rw [encode_nil, decodeFrom]
  | cons c cs ih =>
      obtain ⟨b, bs, he, hh⟩ := head_encodeChar c (encode cs)
      rw [encode_cons, he, List.cons_append, decodeFrom, hh]
      simp only [List.drop_left, ih, Except.map]

theorem decode_encode (cs : List Char) : decode (encode cs) = .ok cs :=
  decodeFrom_encode 0 cs

theorem decodeLossy_encode (cs : List Char) : decodeLossy (encode cs) = cs := by
  induction cs with
  | nil => rw [encode_nil, decodeLossy]
  | cons c cs ih =>
      obtain ⟨b, bs, he, hh⟩ := head_encodeChar c (encode cs)
      rw [encode_cons, he, List.cons_append, decodeLossy, hh]
      simp only [List.drop_left, ih]

theorem encode_ascii {cs : List Char} (h : ∀ c ∈ cs, c.toNat < 0x80) :
    encode cs = cs.map fun c => UInt8.ofNat c.toNat := by
  induction cs with
  | nil => rfl
  | cons c cs ih =>
      obtain ⟨hc, hcs⟩ := List.forall_mem_cons.1 h
      have he : String.utf8EncodeChar c = [UInt8.ofNat c.toNat] := by
        simp only [String.utf8EncodeChar]
        rw [if_pos (show c.val.toNat ≤ 0x7F from Nat.le_of_lt_succ hc)]
        rfl
      rw [encode_cons, he, ih hcs, List.map_cons, List.singleton_append]

theorem val_ofNat (h : n.isValidChar) : (Char.ofNat n).val.toNat = n := by
  rw [Char.ofNat, dif_pos h]
  rfl

theorem follows_bounds (h : follows b b₁) : 0x80 ≤ b₁.toNat ∧ b₁.toNat ≤ 0xBF := by
  rw [follows_iff] at h
  split_ifs at h <;> omega

theorem encodeChar_one (h : b.toNat < 0x80) :
    String.utf8EncodeChar (Char.ofNat b.toNat) = [b] := by
  have hv : b.toNat.isValidChar := .inl (by omega)
  simp only [String.utf8EncodeChar, val_ofNat hv]
  rw [if_pos (by omega), UInt8.ofNat_toNat]

theorem encodeChar_two (h : 0xC2 ≤ b.toNat ∧ b.toNat < 0xE0) (h₁ : follows b b₁) :
    String.utf8EncodeChar (scalar (b.toNat % 32) [b₁]) = [b, b₁] := by
  have hb := follows_bounds h₁
  simp only [scalar, List.foldl_cons, List.foldl_nil]
  have hv : (64 * (b.toNat % 32) + b₁.toNat % 64).isValidChar := .inl (by omega)
  simp only [String.utf8EncodeChar, val_ofNat hv]
  rw [if_neg (by omega), if_pos (by omega)]
  simp only [List.cons.injEq, UInt8.ofNat_eq_iff_mod_eq_toNat, and_true]
  omega

theorem encodeChar_three (h : 0xE0 ≤ b.toNat ∧ b.toNat < 0xF0) (h₁ : follows b b₁)
    (h₂ : isContinuation b₂) :
    String.utf8EncodeChar (scalar (b.toNat % 16) [b₁, b₂]) = [b, b₁, b₂] := by
  have hb := follows_bounds h₁
  have hE0 : b.toNat = 0xE0 → 0xA0 ≤ b₁.toNat := fun he => by simpa [he] using (follows_iff.1 h₁).1
  have hED : b.toNat = 0xED → b₁.toNat ≤ 0x9F := fun he => by simpa [he] using (follows_iff.1 h₁).2
  rw [isContinuation_iff] at h₂
  simp only [scalar, List.foldl_cons, List.foldl_nil]
  have hv : (64 * (64 * (b.toNat % 16) + b₁.toNat % 64) + b₂.toNat % 64).isValidChar := by
    simp only [Nat.isValidChar]
    omega
  simp only [String.utf8EncodeChar, val_ofNat hv]
  rw [if_neg (by omega), if_neg (by omega), if_pos (by omega)]
  simp only [List.cons.injEq, UInt8.ofNat_eq_iff_mod_eq_toNat, and_true]
  omega

theorem encodeChar_four (h : 0xF0 ≤ b.toNat ∧ b.toNat ≤ 0xF4) (h₁ : follows b b₁)
    (h₂ : isContinuation b₂) (h₃ : isContinuation b₃) :
    String.utf8EncodeChar (scalar (b.toNat % 8) [b₁, b₂, b₃]) = [b, b₁, b₂, b₃] := by
  have hb := follows_bounds h₁
  have hF0 : b.toNat = 0xF0 → 0x90 ≤ b₁.toNat := fun he => by simpa [he] using (follows_iff.1 h₁).1
  have hF4 : b.toNat = 0xF4 → b₁.toNat ≤ 0x8F := fun he => by simpa [he] using (follows_iff.1 h₁).2
  rw [isContinuation_iff] at h₂ h₃
  simp only [scalar, List.foldl_cons, List.foldl_nil]
  have hv : (64 * (64 * (64 * (b.toNat % 8) + b₁.toNat % 64) + b₂.toNat % 64) +
      b₃.toNat % 64).isValidChar := by
    simp only [Nat.isValidChar]
    omega
  simp only [String.utf8EncodeChar, val_ofNat hv]
  rw [if_neg (by omega), if_neg (by omega), if_neg (by omega)]
  simp only [List.cons.injEq, UInt8.ofNat_eq_iff_mod_eq_toNat, and_true]
  omega

theorem lead_bounds (h : ¬(b < 0xC2 || 0xF4 < b)) : 0xC2 ≤ b.toNat ∧ b.toNat ≤ 0xF4 := by
  simpa [UInt8.lt_iff_toNat_lt] using h

theorem encodeChar_of_head {bs : List UInt8} {c : Char} (h : head b bs = .char c n) :
    ∃ cs, String.utf8EncodeChar c = b :: cs ∧ bs = cs ++ bs.drop n := by
  revert h
  fun_cases head b bs with
  | case1 _ h1 =>
      intro h
      cases h
      exact ⟨[], encodeChar_one (UInt8.lt_iff_toNat_lt.1 h1), rfl⟩
  | case5 h1 h2 b₁ bs h₁ h3 =>
      intro h
      cases h
      rw [Bool.not_eq_true, Bool.not_eq_false'] at h₁
      have hb := UInt8.lt_iff_toNat_lt.1 h3
      exact ⟨[b₁], encodeChar_two ⟨(lead_bounds h2).1, hb⟩ h₁, rfl⟩
  | case8 h1 h2 b₁ h₁ h3 b₂ bs h₂ h4 =>
      intro h
      cases h
      rw [Bool.not_eq_true, Bool.not_eq_false'] at h₁ h₂
      have hb := Nat.not_lt.1 fun hb => h3 (UInt8.lt_iff_toNat_lt.2 hb)
      exact ⟨[b₁, b₂], encodeChar_three ⟨hb, UInt8.lt_iff_toNat_lt.1 h4⟩ h₁ h₂, rfl⟩
  | case11 h1 h2 b₁ h₁ h3 b₂ h₂ h4 b₃ bs h₃ =>
      intro h
      cases h
      rw [Bool.not_eq_true, Bool.not_eq_false'] at h₁ h₂ h₃
      have hb := Nat.not_lt.1 fun hb => h4 (UInt8.lt_iff_toNat_lt.2 hb)
      exact ⟨[b₁, b₂, b₃], encodeChar_four ⟨hb, (lead_bounds h2).2⟩ h₁ h₂ h₃, rfl⟩
  | case2 | case3 | case4 | case6 | case7 | case9 | case10 => exact nofun

theorem eq_encode_of_decodeFrom {index : Nat} {bs : List UInt8} {cs : List Char}
    (h : decodeFrom index bs = .ok cs) : bs = encode cs := by
  fun_induction decodeFrom index bs generalizing cs with
  | case1 =>
      cases h
      rfl
  | case2 index b bs c n hh ih =>
      obtain ⟨es, he, hb⟩ := encodeChar_of_head hh
      cases hr : decodeFrom (index + 1 + n) (bs.drop n) with
      | error fault =>
          rw [hr] at h
          cases h
      | ok cs' =>
          rw [hr] at h
          cases h
          rw [encode, List.flatMap_cons, he, List.cons_append, ← encode, ← ih hr, ← hb]
  | case3 | case4 => cases h

theorem decode_eq_ok_iff {bs : List UInt8} {cs : List Char} :
    decode bs = .ok cs ↔ bs = encode cs := by
  constructor
  · exact eq_encode_of_decodeFrom
  · rintro rfl
    exact decode_encode cs

theorem encode_injective : Function.Injective encode := by
  intro cs ds h
  have hd := decode_encode cs
  rw [h, decode_encode] at hd
  exact (Except.ok.inj hd).symm

theorem fromUTF8?_eq_some_iff {bs : List UInt8} {text : String} :
    String.fromUTF8? bs.toByteArray = some text ↔ decode bs = .ok text.toList := by
  have he : text.toByteArray = (encode text.toList).toByteArray := String.utf8Encode_toList.symm
  rw [decode_eq_ok_iff, ← List.toByteArray_inj, ← he, String.fromUTF8?]
  constructor
  · intro h
    split_ifs at h with hv
    exact congrArg String.toByteArray (Option.some.inj h)
  · intro h
    have hv : bs.toByteArray.IsValidUTF8 := h ▸ text.isValidUTF8
    rw [dif_pos hv, Option.some.injEq, ← String.toByteArray_inj]
    exact h

/-- The standard library reads the same bytes as the same texts. -/
theorem fromUTF8?_eq (bs : List UInt8) :
    String.fromUTF8? bs.toByteArray = (decode bs).toOption.map String.ofList := by
  apply Option.ext
  intro text
  rw [fromUTF8?_eq_some_iff]
  cases decode bs with
  | ok cs => simp [Except.toOption, ← String.toList_inj]
  | error fault => simp [Except.toOption]

end TilePuzzle.Utf8
