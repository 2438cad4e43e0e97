import TilePuzzle.Proofs.Markup.PageText
import TilePuzzle.Proofs.Text.Words

namespace TilePuzzle.Markup

variable {c d : Char} {cs w : List Char} {ws : List (List Char)}

theorem escapeChar_space (h : Text.isSpace c) : escapeChar c = [c] := by
  unfold escapeChar
  split
  case h_6 => rfl
  all_goals exact absurd h (by decide)

theorem escape_spaces (h : ∀ c ∈ cs, Text.isSpace c) : escape cs = cs := by
  induction cs with
  | nil => rfl
  | cons c cs ih =>
      obtain ⟨hc, hcs⟩ := List.forall_mem_cons.1 h
      rw [escape, List.flatMap_cons, escapeChar_space hc, ← escape, ih hcs, List.singleton_append]

theorem escape_append (cs ds : List Char) : escape (cs ++ ds) = escape cs ++ escape ds :=
  List.flatMap_append

theorem isWord_escapeChar (h : Text.isSpace c = false) : Text.IsWord (escapeChar c) := by
  unfold escapeChar
  split
  case h_6 => exact ⟨List.cons_ne_nil _ _, List.forall_mem_singleton.2 h⟩
  all_goals decide

theorem isWord_escape (h : Text.IsWord w) : Text.IsWord (escape w) := by
  obtain ⟨hne, hw⟩ := h
  constructor
  · obtain ⟨c, w, rfl⟩ := List.exists_cons_of_ne_nil hne
    rw [escape, List.flatMap_cons]
    intro hn
    have hc := isWord_escapeChar (hw c List.mem_cons_self)
    exact hc.1 (List.append_eq_nil_iff.1 hn).1
  · intro d hd
    obtain ⟨c, hc, hd⟩ := List.mem_flatMap.1 hd
    exact (isWord_escapeChar (hw c hc)).2 d hd

theorem spaced_escape (h : Text.Spaced cs ws) : Text.Spaced (escape cs) (ws.map escape) := by
  induction h with
  | nil => exact .nil
  | @space c cs ws hc h ih =>
      rw [escape, List.flatMap_cons, escapeChar_space hc]
      exact .space hc ih
  | @word w rest ws hw hr h ih =>
      rw [escape_append]
      refine .word (isWord_escape hw) ?_ ih
      cases rest with
      | nil =>
          rintro _ ⟨⟩
      | cons c rest =>
          have hc : Text.isSpace c := hr c rfl
          rw [escape, List.flatMap_cons, escapeChar_space hc]
          rintro _ ⟨⟩
          exact hc

theorem escape_intercalate (ws : List (List Char)) :
    escape ([' '].intercalate ws) = [' '].intercalate (ws.map escape) := by
  induction ws with
  | nil => rfl
  | cons w ws ih =>
      cases ws with
      | nil => simp [List.intercalate_singleton]
      | cons w' ws =>
          rw [List.intercalate_cons_cons, escape_append, escape_append, ih]
          exact (List.intercalate_cons_cons ..).symm

namespace PageText

variable {name written : List Char}

def AtBreak (written : List Char) : Prop :=
  ∃ c ∈ written.head?, c = ' ' ∨ c = '\n'

theorem write_of_atBreak (hc : Text.isSpace c) (h : AtBreak written) : write written c = written := by
  have hspace (written : List Char) : write (' ' :: written) c = ' ' :: written := if_pos hc
  have hnewline (written : List Char) : write ('\n' :: written) c = '\n' :: written := if_pos hc
  obtain ⟨d, hd, hb⟩ := h
  obtain ⟨written, rfl⟩ := List.head?_eq_some_iff.1 hd
  rcases hb with rfl | rfl
  · exact hspace written
  · exact hnewline written

theorem write_space (hc : Text.isSpace c) (hd : Text.isSpace d = false) :
    write (d :: written) c = ' ' :: d :: written := by
  unfold write
  simp only [hc, if_true]
  split
  next heq =>
    obtain ⟨rfl, -⟩ := List.cons.inj heq
    exact absurd hd (by decide)
  next heq =>
    obtain ⟨rfl, -⟩ := List.cons.inj heq
    exact absurd hd (by decide)
  next => rfl

theorem write_of_isWord (hc : Text.isSpace c) (hw : Text.IsWord w) :
    write (w.reverse ++ written) c = ' ' :: (w.reverse ++ written) := by
  obtain ⟨hne, hs⟩ := hw
  obtain ⟨init, d, rfl⟩ := (List.eq_nil_or_concat w).resolve_left hne
  rw [List.concat_eq_append, List.reverse_append, List.reverse_singleton, List.singleton_append,
    List.cons_append]
  exact write_space hc (hs d (by simp))

theorem foldl_write_spaced (h : Text.Spaced cs ws) (hb : AtBreak written) : ∃ n,
    cs.foldl write written =
      List.replicate n ' ' ++ (([' '].intercalate ws).reverse ++ written) := by
  induction h generalizing written with
  | nil => exact ⟨0, rfl⟩
  | space hc h ih =>
      obtain ⟨n, hn⟩ := ih hb
      exact ⟨n, by rw [List.foldl_cons, write_of_atBreak hc hb, hn]⟩
  | @word w rest ws hw hr h ih =>
      rw [List.foldl_append, foldl_write_eq written hw.2]
      cases rest with
      | nil =>
          obtain rfl : [] = ws := h.words_eq
          exact ⟨0, by rw [List.intercalate_singleton]; rfl⟩
      | cons c rest =>
          have hc : Text.isSpace c := hr c rfl
          have hbreak : AtBreak (' ' :: (w.reverse ++ written)) := ⟨' ', rfl, .inl rfl⟩
          obtain ⟨n, hn⟩ := ih hbreak
          rw [List.foldl_cons, write_of_atBreak hc hbreak] at hn
          rw [List.foldl_cons, write_of_isWord hc hw, hn]
          cases ws with
          | nil =>
              refine ⟨n + 1, ?_⟩
              rw [List.intercalate_singleton, List.replicate_succ', List.append_assoc]
              rfl
          | cons w' ws =>
              refine ⟨n, ?_⟩
              rw [List.intercalate_cons_cons]
              simp

theorem scan_block (h : name ∈ blockNames) (written : List Char) :
    scan { written } ('<' :: (name ++ ['>'])) = { written := '\n' :: written } ∧
      scan { written } ('<' :: '/' :: (name ++ ['>'])) = { written := '\n' :: written } := by
  simp only [blockNames, List.map_cons, List.map_nil, List.mem_cons, List.not_mem_nil, or_false] at h
  rcases h with rfl | rfl | rfl | rfl | rfl | rfl | rfl | rfl | rfl | rfl <;> exact ⟨rfl, rfl⟩

end PageText

end TilePuzzle.Markup
