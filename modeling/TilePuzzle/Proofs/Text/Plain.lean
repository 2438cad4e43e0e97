import Mathlib.Data.List.Basic
import Mathlib.Data.List.TakeWhile
import TilePuzzle.Text.Case
import TilePuzzle.Text.Space

namespace TilePuzzle.Text

variable {c : Char} {cs s : List Char}

theorem isUpper_iff_toNat : c.isUpper ↔ 65 ≤ c.toNat ∧ c.toNat ≤ 90 := by
  have h : c.isUpper = decide (c.val ≥ 'A'.val ∧ c.val ≤ 'Z'.val) := rfl
  rw [h, decide_eq_true_eq]
  exact Iff.rfl

theorem isLower_iff_toNat : c.isLower ↔ 97 ≤ c.toNat ∧ c.toNat ≤ 122 := by
  have h : c.isLower = (decide (c.val ≥ 'a'.val) && decide (c.val ≤ 'z'.val)) := rfl
  rw [h, Bool.and_eq_true, decide_eq_true_eq, decide_eq_true_eq]
  exact Iff.rfl

theorem isAlpha_iff : c.isAlpha ↔ c.isUpper ∨ c.isLower :=
  Bool.or_eq_true_iff

theorem isAlphanum_iff : c.isAlphanum ↔ c.isAlpha ∨ c.isDigit :=
  Bool.or_eq_true_iff

theorem isSpace_visible (h : 0x20 < c.toNat ∧ c.toNat < 0x7F) : isSpace c = false := by
  simp only [isSpace, Bool.or_eq_false_iff, Bool.and_eq_false_iff, decide_eq_false_iff_not]
  omega

theorem not_isSpace_of_isDigit (h : c.isDigit) : isSpace c = false := by
  have hd := Char.isDigit_iff_toNat.1 h
  simp only [Char.reduceToNat] at hd
  exact isSpace_visible (by omega)

theorem not_mem_of_isDigit (hc : c.isDigit = false) (h : ∀ d ∈ cs, d.isDigit) : c ∉ cs :=
  fun hm => Bool.false_ne_true (hc.symm.trans (h c hm))

theorem span_append {p : Char → Bool} {rest : List Char} (h : ∀ c ∈ cs, p c)
    (hr : ∀ c ∈ rest.head?, p c = false) :
    (cs ++ rest).takeWhile p = cs ∧ (cs ++ rest).dropWhile p = rest := by
  rw [List.takeWhile_append_of_pos h, List.dropWhile_append_of_pos h]
  cases rest with
  | nil => exact ⟨List.append_nil cs, rfl⟩
  | cons d rest =>
      have hd : ¬p d := Bool.eq_false_iff.1 (hr d rfl)
      rw [List.takeWhile_cons_of_neg hd, List.dropWhile_cons_of_neg hd, List.append_nil]
      exact ⟨rfl, rfl⟩

theorem cut_append (h : c ∉ cs) (rest : List Char) :
    (cs ++ c :: rest).takeWhile (· ≠ c) = cs ∧ (cs ++ c :: rest).dropWhile (· ≠ c) = c :: rest := by
  refine span_append (fun d hd => decide_eq_true ?_) ?_
  · rintro rfl
    exact h hd
  · simp

theorem trimStart_append (hs : ∀ c ∈ s, isSpace c)
    (h : ∀ c ∈ cs.head?, isSpace c = false) : trimStart (s ++ cs) = cs :=
  (span_append hs h).2

theorem trimStart_eq_self (h : ∀ c ∈ cs.head?, isSpace c = false) : trimStart cs = cs :=
  trimStart_append (List.forall_mem_nil _) h

theorem trim_append (hh : ∀ c ∈ cs.head?, isSpace c = false)
    (hl : ∀ c ∈ cs.getLast?, isSpace c = false) (hs : ∀ c ∈ s, isSpace c) : trim (cs ++ s) = cs := by
  by_cases hne : cs = []
  · rw [hne, List.nil_append, trim, trimStart, List.dropWhile_eq_nil_iff.2 hs]
    rfl
  · have hstart : trimStart (cs ++ s) = cs ++ s := by
      refine trimStart_eq_self fun c hc => hh c ?_
      rwa [List.head?_append_of_ne_nil _ hne] at hc
    have hend : trimStart (s.reverse ++ cs.reverse) = cs.reverse := by
      refine trimStart_append (fun c hc => hs c (List.mem_reverse.1 hc)) ?_
      rwa [List.head?_reverse]
    rw [trimStart] at hend
    rw [trim, hstart, trimEnd, List.reverse_append, hend, List.reverse_reverse]

theorem trim_eq_self (h : ∀ c ∈ cs, isSpace c = false) : trim cs = cs := by
  have ht := trim_append (s := []) (fun c hc => h c (List.mem_of_mem_head? hc))
    (fun c hc => h c (List.mem_of_mem_getLast? hc)) (List.forall_mem_nil _)
  rwa [List.append_nil] at ht

theorem trimmedLines_line (h : '\n' ∉ cs) : trimmedLines cs = [trim cs].filter (· ≠ []) := by
  have hn : ∀ c ∈ cs, decide (c = '\n') = false := by
    intro c hc
    rw [decide_eq_false_iff_not]
    rintro rfl
    exact h hc
  rw [trimmedLines, List.splitOnP_eq_singleton hn, List.map_singleton]

theorem trimmedLines_eq_singleton (hne : cs ≠ []) (h : ∀ c ∈ cs, isSpace c = false) :
    trimmedLines cs = [cs] := by
  have hn : '\n' ∉ cs := fun hn => absurd (h _ hn) (by decide)
  rw [trimmedLines_line hn, trim_eq_self h]
  exact List.filter_eq_self.2 (by simpa using hne)

theorem trimmedLines_newline (cs rest : List Char) :
    trimmedLines (cs ++ '\n' :: rest) = trimmedLines cs ++ trimmedLines rest := by
  rw [trimmedLines, List.splitOnP_append_cons cs rest (by decide), List.map_append,
    List.filter_append]
  rfl

theorem lowerAfter_append (before rest : List Char) (h : ∀ c ∈ cs, c.toNat < 128) :
    lowerAfter before (cs ++ rest) =
      cs.map Char.toLower ++ lowerAfter (cs.reverse ++ before) rest := by
  induction cs generalizing before with
  | nil => rfl
  | cons c cs ih =>
      obtain ⟨hc, hcs⟩ := List.forall_mem_cons.1 h
      have hs : c.toNat ≠ 0x3A3 := by omega
      rw [List.cons_append, lowerAfter, ih (c :: before) hcs, lowerChar, if_pos hc]
      simp [hs]

theorem head?_lowerAfter (before : List Char) (h : ∀ c ∈ cs.head?, c = '/') :
    ∀ c ∈ (lowerAfter before cs).head?, c = '/' := by
  cases cs with
  | nil => exact nofun
  | cons c cs =>
      obtain rfl := h c rfl
      have hs : lowerAfter before (['/'] ++ cs) = _ := lowerAfter_append before cs
        (List.forall_mem_singleton.2 (by decide))
      rw [List.singleton_append] at hs
      rw [hs]
      rintro _ ⟨⟩
      rfl

theorem lower_ascii (h : ∀ c ∈ cs, c.toNat < 128) : lower cs = cs.map Char.toLower := by
  have ha := lowerAfter_append [] [] h
  simpa [lower, lowerAfter] using ha

theorem lower_eq_self (h : ∀ c ∈ cs, c.toNat < 128 ∧ c.isUpper = false) : lower cs = cs := by
  have hl : ∀ c ∈ cs, c.toLower = c := by
    intro c hc
    have hu := (h c hc).2
    exact dif_neg fun hr => Bool.false_ne_true (hu.symm.trans (decide_eq_true hr))
  rw [lower_ascii fun c hc => (h c hc).1, List.map_congr_left hl, List.map_id']

end TilePuzzle.Text
