import TilePuzzle.Proofs.Codec.Utf8
import TilePuzzle.Proofs.Text.Plain
import TilePuzzle.Url.Basic

namespace TilePuzzle.Url

namespace Percent

theorem hexDigit?_hexDigit {n : Nat} (h : n < 16) :
    hexDigit? (.ofNat (hexDigit n).toNat) = some n ∧ (hexDigit n).toNat < 0x80 := by
  have hall : ∀ n < 16, hexDigit? (.ofNat (hexDigit n).toNat) = some n ∧
      (hexDigit n).toNat < 0x80 := by
    decide
  exact hall n h

theorem decodeBytes_cons {b : UInt8} (h : b ≠ 37) (bs : List UInt8) :
    decodeBytes (b :: bs) = b :: decodeBytes bs := by
  rw [decodeBytes]
  rintro _ _ _ rfl
  exact absurd rfl h

theorem decodeBytes_encodeByte (b : UInt8) (bs : List UInt8) :
    decodeBytes (Utf8.encode (encodeByte b) ++ bs) = b :: decodeBytes bs := by
  have hb : b.toNat < 256 := b.toNat_lt
  obtain ⟨hhi, hhi'⟩ := hexDigit?_hexDigit (n := b.toNat / 16) (by omega)
  obtain ⟨hlo, hlo'⟩ := hexDigit?_hexDigit (n := b.toNat % 16) (by omega)
  have he : Utf8.encode (encodeByte b) = [37, .ofNat (hexDigit (b.toNat / 16)).toNat,
      .ofNat (hexDigit (b.toNat % 16)).toNat] := by
    rw [Utf8.encode_ascii (by simp [encodeByte, hhi', hlo'])]
    rfl
  simp only [he, List.cons_append, List.nil_append, decodeBytes, hhi, hlo, Nat.div_add_mod,
    UInt8.ofNat_toNat]

theorem decodeBytes_flatMap (bs ds : List UInt8) :
    decodeBytes (Utf8.encode (bs.flatMap encodeByte) ++ ds) = bs ++ decodeBytes ds := by
  induction bs with
  | nil => rfl
  | cons b bs ih =>
      rw [List.flatMap_cons, Utf8.encode_append, List.append_assoc, decodeBytes_encodeByte, ih,
        List.cons_append]

end Percent

namespace Form

variable {c : Char} {cs query : List Char}

def blanks (cs : List Char) : List Char :=
  cs.map fun c => if c = '+' then ' ' else c

theorem isPlain_hexDigit {n : Nat} (h : n < 16) : isPlain (Percent.hexDigit n) = true := by
  have hall : ∀ n < 16, isPlain (Percent.hexDigit n) = true := by decide
  exact hall n h

theorem isPlain_bounds (h : isPlain c = true) : c.toNat < 0x80 ∧ c ≠ '+' ∧ c ≠ '%' := by
  simp only [isPlain, Bool.or_eq_true, Text.isAlphanum_iff, Text.isAlpha_iff, Text.isUpper_iff_toNat,
    Text.isLower_iff_toNat, Char.isDigit_iff_toNat, decide_eq_true_eq, List.mem_cons,
    List.not_mem_nil, or_false] at h
  have h9 : '9'.toNat = 57 := rfl
  rcases h with h | h
  · refine ⟨by omega, ?_, ?_⟩
    all_goals rintro rfl; simp at h
  · rcases h with rfl | rfl | rfl | rfl <;> decide

theorem encode_cons (c : Char) (cs : List Char) : encode (c :: cs) = encode [c] ++ encode cs := by
  simp [encode]

theorem mem_encodeByte {b : UInt8} (h : c ∈ Percent.encodeByte b) : isPlain c = true ∨ c = '%' := by
  have hb : b.toNat < 256 := b.toNat_lt
  simp only [Percent.encodeByte, List.mem_cons, List.not_mem_nil, or_false] at h
  rcases h with rfl | rfl | rfl
  · exact .inr rfl
  · exact .inl (isPlain_hexDigit (by omega))
  · exact .inl (isPlain_hexDigit (by omega))

theorem mem_encode (h : c ∈ encode cs) : isPlain c = true ∨ c = '%' ∨ c = '+' := by
  obtain ⟨d, -, hc⟩ := List.mem_flatMap.1 h
  split at hc
  · rename_i hp
    exact .inl (List.mem_singleton.1 hc ▸ hp)
  · split at hc
    · exact .inr (.inr (List.mem_singleton.1 hc))
    · obtain ⟨b, -, hb⟩ := List.mem_flatMap.1 hc
      exact (mem_encodeByte hb).imp_right .inl

theorem not_mem_encode (h : c ∈ ['&', '=']) (cs : List Char) : c ∉ encode cs := by
  intro hc
  have hm := mem_encode hc
  simp only [List.mem_cons, List.not_mem_nil, or_false] at h
  rcases h with rfl | rfl <;> revert hm <;> decide

theorem blanks_eq_self (h : '+' ∉ cs) : blanks cs = cs := by
  have hid : ∀ c ∈ cs, (if c = '+' then ' ' else c) = id c := by
    intro c hc
    have hne : c ≠ '+' := by
      rintro rfl
      exact h hc
    exact if_neg hne
  rw [blanks, List.map_congr_left hid, List.map_id]

theorem decodeBytes_char (c : Char) (bs : List UInt8) :
    Percent.decodeBytes (Utf8.encode (blanks (encode [c])) ++ bs) =
      Utf8.encode [c] ++ Percent.decodeBytes bs := by
  by_cases hp : isPlain c = true
  · obtain ⟨ha, hplus, hpercent⟩ := isPlain_bounds hp
    have hb : UInt8.ofNat c.toNat ≠ 37 := by
      intro h
      have hn := congrArg UInt8.toNat h
      rw [Utf8.toNat_byte (by omega)] at hn
      exact hpercent (Char.toNat_inj.1 hn)
    have he : encode [c] = [c] := by simp [encode, hp]
    rw [he, blanks_eq_self (by simpa using hplus.symm), Utf8.encode_ascii (by simpa using ha)]
    exact Percent.decodeBytes_cons hb bs
  · by_cases hs : c = ' '
    · subst hs
      exact Percent.decodeBytes_cons (by decide) bs
    · have he : encode [c] = (Utf8.encode [c]).flatMap Percent.encodeByte := by
        simp [encode, hp, hs]
      have hn : '+' ∉ (Utf8.encode [c]).flatMap Percent.encodeByte := by
        intro hm
        obtain ⟨b, -, hb⟩ := List.mem_flatMap.1 hm
        exact absurd (mem_encodeByte hb) (by decide)
      rw [he, blanks_eq_self hn, Percent.decodeBytes_flatMap]

theorem decode_encode (cs : List Char) : decode (encode cs) = cs := by
  have h : Percent.decodeBytes (Utf8.encode (blanks (encode cs))) = Utf8.encode cs := by
    induction cs with
    | nil => rfl
    | cons c cs ih =>
        have hb : blanks (encode (c :: cs)) = blanks (encode [c]) ++ blanks (encode cs) := by
          rw [encode_cons, blanks, List.map_append]
          rfl
        rw [hb, Utf8.encode_append, decodeBytes_char, ih]
        exact (Utf8.encode_append [c] cs).symm
  rw [decode, Percent.decode, ← blanks, h, Utf8.decodeLossy_encode]

theorem decodePair_encodePair (pair : List Char × List Char) :
    decodePair (encodePair pair) = pair := by
  have hn : '=' ∉ encode pair.1 := not_mem_encode (by decide) _
  obtain ⟨ht, hd⟩ := Text.cut_append hn (encode pair.2)
  rw [decodePair, encodePair, ht, hd, List.drop_one, List.tail_cons, decode_encode, decode_encode]

theorem splitOnP_encodePair (pair : List Char × List Char) :
    (encodePair pair).splitOnP (· = '&') = [encodePair pair] := by
  apply List.splitOnP_eq_singleton
  intro c hc
  rw [decide_eq_false_iff_not]
  rintro rfl
  rw [encodePair, List.mem_append, List.mem_cons] at hc
  rcases hc with hc | hc | hc
  · exact not_mem_encode (by decide) _ hc
  · exact absurd hc (by decide)
  · exact not_mem_encode (by decide) _ hc

theorem pairs_encodePair (pair : List Char × List Char) : pairs (encodePair pair) = [pair] := by
  have hne : encodePair pair ≠ [] := by simp [encodePair]
  rw [pairs, splitOnP_encodePair, List.filter_cons_of_pos (by simpa using hne)]
  exact congrArg (· :: []) (decodePair_encodePair pair)

theorem pairs_append (query : List Char) (pair : List Char × List Char) :
    pairs (append query pair) = pairs query ++ [pair] := by
  by_cases hq : query = []
  · rw [append, if_pos hq, pairs_encodePair, hq]
    rfl
  · rw [append, if_neg hq, ← pairs_encodePair pair, pairs,
      List.splitOnP_append_cons _ _ (by decide), List.filter_append, List.map_append]
    rfl

theorem pairs_foldl_append (query : List Char) (ps : List (List Char × List Char)) :
    pairs (ps.foldl append query) = pairs query ++ ps := by
  induction ps generalizing query with
  | nil => exact (List.append_nil _).symm
  | cons pair ps ih =>
      rw [List.foldl_cons, ih, pairs_append, List.append_assoc, List.singleton_append]

end Form

variable {u : Url} {ps ps' : List (List Char × List Char)}

def pairs (u : Url) : List (List Char × List Char) :=
  Form.pairs (u.query.getD [])

theorem pairs_appendPairs (u : Url) (ps : List (List Char × List Char)) :
    (u.appendPairs ps).pairs = u.pairs ++ ps :=
  Form.pairs_foldl_append _ ps

/-- Appended to the same URL, different parameters lead to URLs that are written differently. -/
theorem toString_appendPairs_inj :
    toString (u.appendPairs ps) = toString (u.appendPairs ps') ↔ ps = ps' := by
  refine ⟨fun h => ?_, fun h => by rw [h]⟩
  have hr : (u.appendPairs ps).render = (u.appendPairs ps').render := String.ofList_injective h
  have hq : (u.appendPairs ps).query = (u.appendPairs ps').query := by
    simp only [appendPairs, render, renderPath, List.append_assoc, List.append_cancel_left_eq,
      List.cons.injEq, true_and, List.cons_append, List.append_cancel_right_eq] at hr
    rw [appendPairs, appendPairs, hr]
  have hp : (u.appendPairs ps).pairs = (u.appendPairs ps').pairs := by rw [pairs, hq, pairs]
  rwa [pairs_appendPairs, pairs_appendPairs, List.append_cancel_left_eq] at hp

end TilePuzzle.Url
