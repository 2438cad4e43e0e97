import TilePuzzle.Page
import TilePuzzle.Proofs.Markup.Spacing
import TilePuzzle.Proofs.Text.Lines

namespace TilePuzzle

namespace Markup.PageText

variable {a c : Char} {cs written : List Char} {s : State}

theorem closeTag_written (s : State) (word : List Char) :
    (closeTag s word).written = s.written ∨ (closeTag s word).written = '\n' :: s.written := by
  rw [closeTag]
  split
  · exact .inr rfl
  · exact .inl rfl

theorem step_written (s : State) (c : Char) : (step s c).written = s.written ∨
    (step s c).written = '\n' :: s.written ∨ (step s c).written = write s.written c := by
  rw [step]
  split
  next => exact .inl rfl
  next =>
    split
    next =>
      split
      next => exact (closeTag_written s _).imp_right .inl
      next => exact .inl rfl
    next =>
      split
      next => exact .inl rfl
      next => exact .inr (.inr rfl)

/-- What is written, latest character first, has no space after white space. -/
structure Tidy (written : List Char) : Prop where
  plain : ∀ c ∈ written, Text.isSpace c → c = ' ' ∨ c = '\n'
  noSpace : written.IsChain fun c before => Text.isSpace before → c ≠ ' '

namespace Tidy

theorem nil : Tidy [] :=
  ⟨List.forall_mem_nil _, .nil⟩

theorem visible (h : Tidy written) (hc : Text.isSpace c = false) : Tidy (c :: written) := by
  refine ⟨List.forall_mem_cons.2 ⟨fun hs => ?_, h.plain⟩, List.isChain_cons.2 ⟨?_, h.noSpace⟩⟩
  · rw [hc] at hs
    cases hs
  · rintro before - - rfl
    exact absurd hc (by decide)

theorem newline (h : Tidy written) : Tidy ('\n' :: written) :=
  ⟨List.forall_mem_cons.2 ⟨fun _ => .inr rfl, h.plain⟩,
    List.isChain_cons.2 ⟨fun _ _ _ => by decide, h.noSpace⟩⟩

theorem space (h : Tidy written) (hw : ∀ c ∈ written.head?, Text.isSpace c = false) :
    Tidy (' ' :: written) := by
  refine ⟨List.forall_mem_cons.2 ⟨fun _ => .inl rfl, h.plain⟩,
    List.isChain_cons.2 ⟨fun c hc hs => ?_, h.noSpace⟩⟩
  rw [hw c hc] at hs
  cases hs

theorem write (h : Tidy written) (c : Char) : Tidy (write written c) := by
  cases hc : Text.isSpace c with
  | false =>
      have hw : PageText.write written c = c :: written := if_neg (Bool.eq_false_iff.1 hc)
      rw [hw]
      exact h.visible hc
  | true =>
      by_cases hb : AtBreak written
      · rwa [write_of_atBreak hc hb]
      · cases written with
        | nil =>
            have hw : PageText.write [] c = [' '] := if_pos hc
            rw [hw]
            exact nil.space nofun
        | cons d written =>
            have hd : Text.isSpace d = false := by
              rw [← Bool.not_eq_true]
              exact fun hs => hb ⟨d, rfl, h.plain d List.mem_cons_self hs⟩
            rw [write_space hc hd]
            refine h.space ?_
            rintro _ ⟨⟩
            exact hd

theorem step (h : Tidy s.written) (c : Char) : Tidy (step s c).written := by
  rcases step_written s c with hs | hs | hs <;> rw [hs]
  · exact h
  · exact h.newline
  · exact h.write c

theorem scan (h : Tidy s.written) (cs : List Char) : Tidy (scan s cs).written := by
  induction cs generalizing s with
  | nil => exact h
  | cons c cs ih => exact ih (h.step c)

theorem collapsed (h : Tidy written) : Text.Collapsed written.reverse :=
  ⟨fun c hc => h.plain c (List.mem_reverse.1 hc), List.isChain_reverse.2 h.noSpace⟩

end Tidy

theorem mem_write (h : a ∈ write written c) : a ∈ written ∨ a = c ∨ a = ' ' := by
  unfold write at h
  split at h
  · split at h
    · exact .inl h
    · exact .inl h
    · exact (List.mem_cons.1 h).symm.imp_right .inr
  · exact (List.mem_cons.1 h).symm.imp_right .inl

theorem mem_step (h : a ∈ (step s c).written) : a ∈ s.written ∨ a = c ∨ a = ' ' ∨ a = '\n' := by
  rcases step_written s c with hs | hs | hs <;> rw [hs] at h
  · exact .inl h
  · exact (List.mem_cons.1 h).symm.imp_right fun hn => .inr (.inr hn)
  · exact (mem_write h).imp_right fun hw => hw.imp_right .inl

theorem mem_scan (h : a ∈ (scan s cs).written) :
    a ∈ s.written ∨ a ∈ cs ∨ a = ' ' ∨ a = '\n' := by
  induction cs generalizing s with
  | nil => exact .inl h
  | cons c cs ih =>
      rcases ih h with hs | hcs | hw
      · rcases mem_step hs with hs | rfl | hw
        · exact .inl hs
        · exact .inr (.inl List.mem_cons_self)
        · exact .inr (.inr hw)
      · exact .inr (.inl (List.mem_cons_of_mem c hcs))
      · exact .inr (.inr hw)

theorem decodeEntities_written (h : '&' ∉ cs) :
    decodeEntities (scan {} cs).written.reverse = (scan {} cs).written.reverse := by
  refine decodeEntities_eq_self fun ha => ?_
  rcases mem_scan (List.mem_reverse.1 ha) with hs | hcs | hw
  · cases hs
  · exact h hcs
  · exact absurd hw (by decide)

end Markup.PageText

namespace Page

open Markup PageText

theorem toList_text (page : String) : (text page).toList = ['\n'].intercalate
    (Text.trimmedLines (decodeEntities (scan {} page.toList).written.reverse)) :=
  String.toList_ofList

/-- The readable text of a page is trimmed lines that are not empty, one line break apart. On a page
without entities it has no white space but spaces and these line breaks, and no two characters of
white space side by side. -/
theorem text_in_normal_form (page : String) :
    (∃ lines, (text page).toList = ['\n'].intercalate lines ∧ ∀ line ∈ lines, Text.IsLine line) ∧
    ('&' ∉ page.toList → (∀ c ∈ (text page).toList, Text.isSpace c → c = ' ' ∨ c = '\n') ∧
      Text.Single (text page).toList) := by
  refine ⟨⟨_, toList_text page, fun _ hl => Text.isLine_of_mem_trimmedLines hl⟩, fun ha => ?_⟩
  have hc := (Tidy.nil.scan (s := {}) page.toList).collapsed
  rw [toList_text, decodeEntities_written ha]
  constructor
  · intro c hm hs
    exact hc.plain_of_mem (fun _ hl => Text.infix_of_mem_trimmedLines hl) hm hs
  · refine Text.single_intercalate fun line hl => ?_
    have hline := Text.isLine_of_mem_trimmedLines hl
    exact ⟨hline, hc.single (Text.infix_of_mem_trimmedLines hl) hline.noBreak⟩

/-- An entity for a space stands beside the space of the page. -/
example : text "a &nbsp;b <br/> <p " = "a  b" := by
  decide +kernel

end Page

end TilePuzzle
