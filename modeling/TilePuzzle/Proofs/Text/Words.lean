import Mathlib.Data.List.Basic
import TilePuzzle.Text.Space

namespace TilePuzzle.Text

variable {c : Char} {cs w rest : List Char} {ws : List (List Char)}

def IsWord (w : List Char) : Prop :=
  w ≠ [] ∧ ∀ c ∈ w, isSpace c = false

instance : DecidablePred IsWord := fun w =>
  decidable_of_iff (w ≠ [] ∧ w.all fun c => !isSpace c) (by simp [IsWord])

/-- A word ends where the text ends or white space follows. -/
inductive Spaced : List Char → List (List Char) → Prop
  | nil : Spaced [] []
  | space {c : Char} {cs : List Char} {ws : List (List Char)} (hc : isSpace c)
      (h : Spaced cs ws) : Spaced (c :: cs) ws
  | word {w rest : List Char} {ws : List (List Char)} (hw : IsWord w)
      (hr : ∀ c ∈ rest.head?, isSpace c) (h : Spaced rest ws) : Spaced (w ++ rest) (w :: ws)

theorem words_space (hc : isSpace c) (cs : List Char) : words (c :: cs) = words cs := by
  rw [words, List.splitOnP_cons_eq_if_modifyHead, if_pos hc, List.filter_cons_of_neg (by simp)]
  rfl

theorem words_word (hw : IsWord w) (hr : ∀ c ∈ rest.head?, isSpace c) :
    words (w ++ rest) = w :: words rest := by
  cases rest with
  | nil =>
      rw [List.append_nil, words, List.splitOnP_eq_singleton hw.2,
        List.filter_cons_of_pos (by simpa using hw.1)]
      rfl
  | cons c rest =>
      have hc : isSpace c := hr c rfl
      rw [words_space hc, words, List.splitOnP_append_cons_of_forall_mem hw.2 c hc,
        List.filter_cons_of_pos (by simpa using hw.1), words]

namespace Spaced

theorem words_eq (h : Spaced cs ws) : words cs = ws := by
  induction h with
  | nil => rfl
  | space hc h ih => rw [words_space hc, ih]
  | word hw hr h ih => rw [words_word hw hr, ih]

theorem isWord (h : Spaced cs ws) : ∀ w ∈ ws, IsWord w := by
  induction h with
  | nil => exact List.forall_mem_nil _
  | space hc h ih => exact ih
  | word hw hr h ih => exact List.forall_mem_cons.2 ⟨hw, ih⟩

theorem flatten_eq (h : Spaced cs ws) : ws.flatten = cs.filter fun c => !isSpace c := by
  induction h with
  | nil => rfl
  | space hc h ih => rw [ih, List.filter_cons_of_neg (by simpa using hc)]
  | @word w rest ws hw hr h ih =>
      have hk : w.filter (fun c => !isSpace c) = w := by
        apply List.filter_eq_self.2
        intro c hc
        rw [hw.2 c hc, Bool.not_false]
      rw [List.flatten_cons, ih, List.filter_append, hk]

theorem mem_iff (h : Spaced cs ws) : (∃ w ∈ ws, c ∈ w) ↔ c ∈ cs ∧ isSpace c = false := by
  rw [← List.mem_flatten, h.flatten_eq, List.mem_filter, Bool.not_eq_true']

theorem exists_cons (h : Spaced cs ws) (hc : isSpace c = false) : ∃ ws, Spaced (c :: cs) ws := by
  have hone : IsWord [c] := ⟨List.cons_ne_nil c [], by simpa using hc⟩
  cases h with
  | nil => exact ⟨[[c]], .word hone nofun .nil⟩
  | @space d cs ws hd h =>
      refine ⟨[c] :: ws, .word hone ?_ (.space hd h)⟩
      rintro _ ⟨⟩
      exact hd
  | @word w rest ws hw hr h =>
      have hcw : IsWord (c :: w) :=
        ⟨List.cons_ne_nil c w, List.forall_mem_cons.2 ⟨hc, hw.2⟩⟩
      exact ⟨(c :: w) :: ws, .word hcw hr h⟩

end Spaced

theorem spaced_words (cs : List Char) : Spaced cs (words cs) := by
  have he : ∃ ws, Spaced cs ws := by
    induction cs with
    | nil => exact ⟨[], .nil⟩
    | cons c cs ih =>
        obtain ⟨ws, h⟩ := ih
        cases hc : isSpace c with
        | true => exact ⟨ws, .space hc h⟩
        | false => exact h.exists_cons hc
  obtain ⟨ws, h⟩ := he
  rw [h.words_eq]
  exact h

theorem exists_first_word (cs : List Char) : ∃ w rest, cs = w ++ rest ∧
    (∀ c ∈ w, isSpace c = false) ∧ ∀ c ∈ rest.head?, isSpace c := by
  have hs := spaced_words cs
  generalize words cs = ws at hs
  cases hs with
  | nil => exact ⟨[], [], rfl, List.forall_mem_nil _, nofun⟩
  | @space c cs _ hc h =>
      refine ⟨[], c :: cs, rfl, List.forall_mem_nil _, ?_⟩
      rintro _ ⟨⟩
      exact hc
  | @word w rest _ hw hr h => exact ⟨w, rest, rfl, hw.2, hr⟩

theorem words_eq_iff : words cs = ws ↔ Spaced cs ws := by
  constructor
  · rintro rfl
    exact spaced_words cs
  · exact Spaced.words_eq

theorem spaced_intercalate (h : ∀ w ∈ ws, IsWord w) : Spaced ([' '].intercalate ws) ws := by
  induction ws with
  | nil => exact .nil
  | cons w ws ih =>
      obtain ⟨hw, hws⟩ := List.forall_mem_cons.1 h
      cases ws with
      | nil =>
          have hl : Spaced (w ++ []) [w] := .word hw nofun .nil
          rw [List.intercalate_singleton]
          rwa [List.append_nil] at hl
      | cons w' ws =>
          rw [List.intercalate_cons_cons, List.append_assoc, List.singleton_append]
          have hs : isSpace ' ' := by decide
          refine .word hw (fun c hc => ?_) (.space hs (ih hws))
          rw [← Option.some.inj hc]
          exact hs

theorem mem_intercalate {sep : List Char} (h : c ∈ sep.intercalate ws) :
    c ∈ sep ∨ ∃ w ∈ ws, c ∈ w := by
  induction ws with
  | nil => cases h
  | cons w ws ih =>
      cases ws with
      | nil =>
          rw [List.intercalate_singleton] at h
          exact .inr ⟨w, List.mem_cons_self, h⟩
      | cons w' ws =>
          rw [List.intercalate_cons_cons, List.append_assoc, List.mem_append, List.mem_append] at h
          rcases h with hw | hc | hws
          · exact .inr ⟨w, List.mem_cons_self, hw⟩
          · exact .inl hc
          · refine (ih hws).imp_right ?_
            rintro ⟨v, hv, hc⟩
            exact ⟨v, List.mem_cons_of_mem w hv, hc⟩

theorem ends_intercalate (h : ∀ w ∈ ws, IsWord w) :
    (∀ c ∈ ([' '].intercalate ws).head?, isSpace c = false) ∧
      ∀ c ∈ ([' '].intercalate ws).getLast?, isSpace c = false := by
  induction ws with
  | nil => exact ⟨nofun, nofun⟩
  | cons w ws ih =>
      obtain ⟨⟨hne, hw⟩, hws⟩ := List.forall_mem_cons.1 h
      cases ws with
      | nil =>
          rw [List.intercalate_singleton]
          exact ⟨fun c hc => hw c (List.mem_of_mem_head? hc),
            fun c hc => hw c (List.mem_of_mem_getLast? hc)⟩
      | cons w' ws =>
          have hj : [' '].intercalate (w' :: ws) ≠ [] := by
            intro hn
            have hf := (spaced_intercalate hws).flatten_eq
            rw [hn, List.filter_nil] at hf
            exact (hws w' List.mem_cons_self).1 (List.append_eq_nil_iff.1 hf).1
          rw [List.intercalate_cons_cons, List.append_assoc]
          constructor
          · intro c hc
            rw [List.head?_append_of_ne_nil _ hne] at hc
            exact hw c (List.mem_of_mem_head? hc)
          · intro c hc
            rw [List.getLast?_append_of_ne_nil _ (by simp),
              List.getLast?_append_of_ne_nil _ hj] at hc
            exact (ih hws).2 c hc

end TilePuzzle.Text
