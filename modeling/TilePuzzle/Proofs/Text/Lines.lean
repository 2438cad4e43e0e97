import Mathlib.Data.List.Chain
import Mathlib.Data.List.DropRight
import TilePuzzle.Proofs.Text.Plain
import TilePuzzle.Proofs.Text.Words

namespace TilePuzzle.Text

variable {c : Char} {cs line : List Char} {lines : List (List Char)}

structure IsLine (line : List Char) : Prop where
  ne_nil : line ≠ []
  noBreak : '\n' ∉ line
  head : ∀ c ∈ line.head?, isSpace c = false
  last : ∀ c ∈ line.getLast?, isSpace c = false

def Single (cs : List Char) : Prop :=
  cs.IsChain fun c d => ¬(isSpace c ∧ isSpace d)

structure Collapsed (cs : List Char) : Prop where
  plain : ∀ c ∈ cs, isSpace c → c = ' ' ∨ c = '\n'
  noSpace : cs.IsChain fun c d => isSpace c → d ≠ ' '

theorem head?_trimStart (cs : List Char) : ∀ c ∈ (trimStart cs).head?, isSpace c = false := by
  intro c hc
  have h := List.head?_dropWhile_not isSpace cs
  rw [trimStart, Option.mem_def] at hc
  rwa [hc] at h

theorem trimEnd_isPrefix (cs : List Char) : trimEnd cs <+: cs :=
  List.rdropWhile_prefix isSpace cs

theorem trim_isInfix (cs : List Char) : trim cs <:+: cs :=
  (trimEnd_isPrefix (trimStart cs)).isInfix.trans (List.dropWhile_suffix isSpace).isInfix

theorem head?_trim (cs : List Char) : ∀ c ∈ (trim cs).head?, isSpace c = false := by
  intro c hc
  obtain ⟨rest, hr⟩ := trimEnd_isPrefix (trimStart cs)
  refine head?_trimStart cs c ?_
  rw [← hr, List.head?_append, ← trim, Option.mem_def.1 hc]
  rfl

theorem getLast?_trim (cs : List Char) : ∀ c ∈ (trim cs).getLast?, isSpace c = false := by
  intro c hc
  refine head?_trimStart (trimStart cs).reverse c ?_
  rwa [trim, trimEnd, List.getLast?_reverse] at hc

theorem exists_of_mem_trimmedLines {cs line : List Char} (h : line ∈ trimmedLines cs) :
    ∃ part, part <:+: cs ∧ '\n' ∉ part ∧ line = trim part ∧ line ≠ [] := by
  by_cases hn : '\n' ∈ cs
  · obtain ⟨first, rest, rfl, hf⟩ := List.eq_append_cons_of_mem hn
    rw [trimmedLines_newline, trimmedLines_line hf, List.mem_append] at h
    rcases h with h | h
    · obtain ⟨hm, hne⟩ := List.mem_filter.1 h
      rw [List.mem_singleton] at hm
      exact ⟨first, List.infix_append' [] first ('\n' :: rest), hf, hm, by simpa using hne⟩
    · obtain ⟨part, hp, hl⟩ := exists_of_mem_trimmedLines h
      have hr : rest <:+: first ++ '\n' :: rest := ⟨first ++ ['\n'], [], by simp⟩
      exact ⟨part, hp.trans hr, hl⟩
  · rw [trimmedLines_line hn] at h
    obtain ⟨hm, hne⟩ := List.mem_filter.1 h
    rw [List.mem_singleton] at hm
    exact ⟨cs, List.infix_refl cs, hn, hm, by simpa using hne⟩
termination_by cs.length

theorem isLine_of_mem_trimmedLines (h : line ∈ trimmedLines cs) : IsLine line := by
  obtain ⟨part, -, hn, rfl, hne⟩ := exists_of_mem_trimmedLines h
  exact ⟨hne, fun hm => hn ((trim_isInfix part).mem hm), head?_trim part, getLast?_trim part⟩

theorem infix_of_mem_trimmedLines (h : line ∈ trimmedLines cs) : line <:+: cs := by
  obtain ⟨part, hp, -, rfl, -⟩ := exists_of_mem_trimmedLines h
  exact (trim_isInfix part).trans hp

theorem head?_intercalate (hne : line ≠ []) (sep : List Char) (lines : List (List Char)) :
    (sep.intercalate (line :: lines)).head? = line.head? := by
  cases lines with
  | nil => rw [List.intercalate_singleton]
  | cons line' lines =>
      rw [List.intercalate_cons_cons, List.append_assoc, List.head?_append_of_ne_nil _ hne]

theorem single_intercalate (h : ∀ line ∈ lines, IsLine line ∧ Single line) :
    Single (['\n'].intercalate lines) := by
  induction lines with
  | nil => exact .nil
  | cons line lines ih =>
      obtain ⟨⟨hl, hs⟩, hls⟩ := List.forall_mem_cons.1 h
      cases lines with
      | nil =>
          rw [List.intercalate_singleton]
          exact hs
      | cons line' lines =>
          have hl' : IsLine line' := (hls line' List.mem_cons_self).1
          rw [List.intercalate_cons_cons, List.append_assoc, List.singleton_append]
          refine hs.append (List.isChain_cons.2 ⟨fun c hc => ?_, ih hls⟩) fun c hc d _ => ?_
          · rw [head?_intercalate hl'.ne_nil] at hc
            simp [hl'.head c hc]
          · simp [hl.last c hc]

/-- Within a line there are no line breaks, so the white space is single spaces. -/
theorem Collapsed.single (h : Collapsed cs) (hl : line <:+: cs) (hn : '\n' ∉ line) :
    Single line := by
  have hc := h.noSpace.infix hl
  rw [List.isChain_iff_forall_rel_of_append_cons_cons] at hc
  rw [Single, List.isChain_iff_forall_rel_of_append_cons_cons]
  rintro c d before after rfl ⟨hcs, hds⟩
  have hd : d ∈ before ++ c :: d :: after := by simp
  rcases h.plain d (hl.mem hd) hds with rfl | rfl
  · exact hc rfl hcs rfl
  · exact hn hd

theorem Collapsed.plain_of_mem (h : Collapsed cs) (hl : ∀ line ∈ lines, line <:+: cs)
    (hc : c ∈ ['\n'].intercalate lines) (hs : isSpace c) : c = ' ' ∨ c = '\n' := by
  rcases mem_intercalate hc with hn | ⟨line, hm, hc⟩
  · exact .inr (List.mem_singleton.1 hn)
  · exact h.plain c ((hl line hm).mem hc) hs

end TilePuzzle.Text
