import TilePuzzle.Markup.PageText
import TilePuzzle.Proofs.Markup.Entity
import TilePuzzle.Proofs.Text.Plain

namespace TilePuzzle.Markup.PageText

variable {cs : List Char} {s : State}

theorem scan_append (s : State) (cs ds : List Char) : scan s (cs ++ ds) = scan (scan s cs) ds :=
  List.foldl_append

theorem scan_tag {content : List Char} (h : ∀ c ∈ cs, c ≠ '<' ∧ c ≠ '>') :
    scan { s with tag := some content } cs = { s with tag := some (cs.reverse ++ content) } := by
  induction cs generalizing content with
  | nil => rfl
  | cons c cs ih =>
      obtain ⟨⟨ho, hc⟩, hcs⟩ := List.forall_mem_cons.1 h
      have hstep : step { s with tag := some content } c =
          { s with tag := some (c :: content) } := by
        simp [step, ho, hc]
      rw [scan, List.foldl_cons, hstep]
      exact (ih hcs).trans (by rw [List.reverse_cons, List.append_assoc, List.singleton_append])

theorem scan_unfinished (h : ∀ c ∈ cs, c ≠ '<' ∧ c ≠ '>') :
    scan s ('<' :: cs) = { s with tag := some cs.reverse } :=
  (scan_tag h).trans (by rw [List.append_nil])

theorem scan_closed (h : ∀ c ∈ cs, c ≠ '<' ∧ c ≠ '>') :
    scan s ('<' :: (cs ++ ['>'])) = closeTag s (tagWord cs) := by
  have hstep : step { s with tag := some cs.reverse } '>' =
      closeTag s (tagWord cs.reverse.reverse) := rfl
  rw [← List.cons_append, scan_append, scan_unfinished h]
  rwa [List.reverse_reverse] at hstep

theorem scan_text (ht : s.tag = none) (hv : s.script = false ∧ s.style = false) (h : '<' ∉ cs) :
    scan s cs = { s with written := cs.foldl write s.written } := by
  induction cs generalizing s with
  | nil => rfl
  | cons c cs ih =>
      obtain ⟨hc, hcs⟩ := List.ne_and_not_mem_of_not_mem_cons h
      have hstep : step s c = { s with written := write s.written c } := by
        simp [step, Ne.symm hc, ht, hv]
      have hscan := ih (s := { s with written := write s.written c }) ht hv hcs
      rw [scan, List.foldl_cons, hstep]
      exact hscan

theorem foldl_write_eq (written : List Char) (h : ∀ c ∈ cs, Text.isSpace c = false) :
    cs.foldl write written = cs.reverse ++ written := by
  induction cs generalizing written with
  | nil => rfl
  | cons c cs ih =>
      obtain ⟨hc, hcs⟩ := List.forall_mem_cons.1 h
      have hw : write written c = c :: written := if_neg (Bool.eq_false_iff.1 hc)
      rw [List.foldl_cons, hw, ih (c :: written) hcs, List.reverse_cons, List.append_assoc,
        List.singleton_append]

theorem ofPage_eq_self (hne : cs ≠ []) (h : ∀ c ∈ cs, Text.isSpace c = false)
    (ht : '<' ∉ cs) (he : '&' ∉ cs) : ofPage cs = cs := by
  have hw : (scan {} cs).written.reverse = cs := by
    rw [scan_text rfl ⟨rfl, rfl⟩ ht, foldl_write_eq [] h, List.append_nil, List.reverse_reverse]
  rw [ofPage, hw, decodeEntities_eq_self he, Text.trimmedLines_eq_singleton hne h]
  simp [Text.joinWith]

theorem ofPage_digits (h : ∀ d ∈ cs, d.isDigit) : ofPage cs = cs := by
  by_cases hne : cs = []
  · subst hne
    have hd : decodeEntities (scan {} []).written.reverse = [] := decodeEntities_nil
    rw [ofPage, hd]
    rfl
  · exact ofPage_eq_self hne (fun d hd => Text.not_isSpace_of_isDigit (h d hd))
      (Text.not_mem_of_isDigit (by decide) h) (Text.not_mem_of_isDigit (by decide) h)

end TilePuzzle.Markup.PageText
