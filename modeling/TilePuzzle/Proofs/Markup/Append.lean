import Mathlib.Data.List.Infix
import Mathlib.Data.List.TakeWhile
import Mathlib.Logic.Basic
import TilePuzzle.Markup.Tag

namespace TilePuzzle.Markup

variable {after body cs name rest run : List Char} {p : Char → Bool} {t : Tag}

/-- The last opening bracket, if there is one, has a closing bracket after it. -/
def Bracketed (cs : List Char) : Prop :=
  ∀ after, '<' :: after <:+ cs → '<' ∉ after → '>' ∈ after

instance : Decidable (Bracketed cs) :=
  decidable_of_iff (∀ s ∈ cs.tails, s.head? = some '<' → '<' ∉ s.tail → '>' ∈ s.tail) <| by
    simp only [List.mem_tails]
    refine ⟨fun h after ha => h _ ha rfl, fun h s hs hc => ?_⟩
    cases s with
    | nil => cases hc
    | cons c after =>
        cases hc
        exact h after hs

theorem Bracketed.of_suffix (h : Bracketed cs) (hr : rest <:+ cs) : Bracketed rest :=
  fun after ha => h after (ha.trans hr)

theorem Bracketed.mem_of_cons (h : Bracketed ('<' :: rest)) : '<' ∈ rest ∨ '>' ∈ rest :=
  or_iff_not_imp_left.2 (h rest (List.suffix_refl ('<' :: rest)))

theorem span_append_of_mem (h : ∃ c ∈ cs, p c = false) (rest : List Char) :
    (cs ++ rest).takeWhile p = cs.takeWhile p ∧
      (cs ++ rest).dropWhile p = cs.dropWhile p ++ rest ∧ cs.dropWhile p ≠ [] := by
  obtain ⟨c, hc, hp⟩ := h
  have hne : cs.dropWhile p ≠ [] := fun hd =>
    absurd (List.dropWhile_eq_nil_iff.1 hd c hc) (by simp [hp])
  have htake : cs.takeWhile p ≠ cs := fun ht =>
    absurd (List.takeWhile_eq_self_iff.1 ht c hc) (by simp [hp])
  have hpre : cs.takeWhile p <+: cs := List.takeWhile_prefix p
  have hlen : (cs.takeWhile p).length ≠ cs.length := fun hl => htake (hpre.eq_of_length hl)
  refine ⟨?_, ?_, hne⟩
  · rw [List.takeWhile_append, if_neg hlen]
  · rw [List.dropWhile_append, if_neg (by simpa [List.isEmpty_iff] using hne)]

theorem cutAtBoundary_append (run : List Char) (h : after ≠ []) (rest : List Char) :
    cutAtBoundary run (after ++ rest) = cutAtBoundary run after := by
  induction run with
  | nil => rfl
  | cons c run ih =>
      have hb : Text.boundary c (run ++ (after ++ rest)) = Text.boundary c (run ++ after) := by
        cases run with
        | nil =>
            cases after with
            | nil => exact absurd rfl h
            | cons d after => rfl
        | cons d run => rfl
      rw [cutAtBoundary, cutAtBoundary, ih, hb]

theorem prefix_of_cutAtBoundary (h : cutAtBoundary run after = some name) : name <+: run := by
  induction run generalizing name with
  | nil => cases h
  | cons c run ih =>
      rw [cutAtBoundary] at h
      split at h
      next cut hc =>
        cases h
        exact List.cons_prefix_cons.2 ⟨rfl, ih hc⟩
      next =>
        split at h
        next =>
          cases h
          exact List.cons_prefix_cons.2 ⟨rfl, List.nil_prefix⟩
        next => cases h

theorem drop_length_takeWhile (p : Char → Bool) (cs : List Char) :
    cs.drop (cs.takeWhile p).length = cs.dropWhile p := by
  have h : (cs.takeWhile p ++ cs.dropWhile p).drop (cs.takeWhile p).length = cs.dropWhile p :=
    List.drop_left
  rwa [List.takeWhile_append_dropWhile] at h

theorem not_bracket_of_isTagName {c : Char} (h : isTagName c) : (c ≠ '<' && c ≠ '>') = true := by
  rw [Bool.and_eq_true, decide_eq_true_eq, decide_eq_true_eq]
  constructor <;> rintro rfl <;> exact absurd h (by decide)

namespace Tag

theorem readName?_append_of_mem (h : '<' ∈ cs ∨ '>' ∈ cs) (rest : List Char) :
    readName? (cs ++ rest) = readName? cs := by
  obtain ⟨b, hm, hb⟩ : ∃ b ∈ cs, (b ≠ '<' && b ≠ '>') = false := by
    rcases h with h | h
    · exact ⟨'<', h, by decide⟩
    · exact ⟨'>', h, by decide⟩
  have hn : isTagName b = false := by
    rw [← Bool.not_eq_true]
    exact fun hn => Bool.false_ne_true (hb.symm.trans (not_bracket_of_isTagName hn))
  obtain ⟨hcontent, hend, hend'⟩ := span_append_of_mem
    (p := fun c => c ≠ '<' && c ≠ '>') ⟨b, hm, hb⟩ rest
  obtain ⟨hrun, hafter, hafter'⟩ := span_append_of_mem ⟨b, hm, hn⟩ rest
  have hcut := cutAtBoundary_append (cs.takeWhile isTagName) hafter' rest
  cases cs with
  | nil => cases hm
  | cons c cs =>
      have hdrop := drop_length_takeWhile (fun c => c ≠ '<' && c ≠ '>') (c :: cs ++ rest)
      rw [hcontent, hend] at hdrop
      rw [List.cons_append] at hcontent hdrop hrun hafter ⊢
      simp only [readName?, drop_length_takeWhile, hcontent, hdrop, hrun, hafter, hcut]
      cases hd : (c :: cs).dropWhile fun c => c ≠ '<' && c ≠ '>' with
      | nil => exact absurd hd hend'
      | cons d more =>
          by_cases hgt : d = '>'
          · rw [hgt]
            rfl
          · simp [hgt]

theorem eq_of_readName? (h : readName? cs = some (name, body)) :
    ∃ rest, cs = name ++ body ++ '>' :: rest := by
  have hrun : cs.takeWhile isTagName =
      (cs.takeWhile fun c => c ≠ '<' && c ≠ '>').takeWhile isTagName := by
    rw [List.takeWhile_takeWhile]
    congr 1
    funext c
    by_cases hc : isTagName c
    · rw [hc, not_bracket_of_isTagName hc]
      rfl
    · simp [hc]
  cases cs with
  | nil => cases h
  | cons c cs =>
      simp only [readName?, drop_length_takeWhile] at h
      split at h
      next =>
        split at h
        next more hd =>
          obtain ⟨name, hcut, hbody⟩ := Option.map_eq_some_iff.1 h
          cases hbody
          rw [hrun] at hcut
          obtain ⟨body, hb⟩ :=
            (prefix_of_cutAtBoundary hcut).trans <| List.takeWhile_prefix isTagName
          refine ⟨more, ?_⟩
          rw [← hb, List.drop_left, hb, ← hd, List.takeWhile_append_dropWhile]
        next => cases h
      next => cases h

theorem read?_append_of_mem (h : '<' ∈ cs ∨ '>' ∈ cs) (rest : List Char) :
    read? (cs ++ rest) = read? cs := by
  cases cs with
  | nil => simp at h
  | cons c cs =>
      by_cases hc : c = '/'
      · subst hc
        have h : '<' ∈ cs ∨ '>' ∈ cs := by simpa using h
        rw [List.cons_append, read?, read?, readName?_append_of_mem h]
      · rw [read?, read?, readName?_append_of_mem h]
        · exact fun rest hr => hc (List.cons.inj hr).1
        · exact fun rest hr => hc (List.cons.inj hr).1

theorem eq_of_read? (h : read? cs = some t) : ∃ rest, cs = t.chars.tail ++ rest := by
  unfold read? at h
  split at h
  next cs =>
    obtain ⟨⟨name, body⟩, hr, rfl⟩ := Option.map_eq_some_iff.1 h
    obtain ⟨rest, rfl⟩ := eq_of_readName? hr
    exact ⟨rest, by simp [chars]⟩
  next =>
    obtain ⟨⟨name, body⟩, hr, rfl⟩ := Option.map_eq_some_iff.1 h
    obtain ⟨rest, rfl⟩ := eq_of_readName? hr
    exact ⟨rest, by simp [chars]⟩

end Tag

theorem pieces_read (h : Tag.read? (t.chars.tail ++ rest) = some t) :
    pieces ('<' :: (t.chars.tail ++ rest)) = .tag t :: pieces rest := by
  have hd : (t.chars.tail ++ rest).drop (t.chars.length - 1) = rest := by
    rw [← List.length_tail, List.drop_left]
  rw [pieces, if_pos rfl, h]
  simp only [hd]

theorem pieces_unread {c : Char} (h : c = '<' → Tag.read? rest = none) :
    pieces (c :: rest) = .char c :: pieces rest := by
  have hn : (if c = '<' then Tag.read? rest else none) = none := by simpa using h
  rw [pieces, hn]

theorem induction_pieces {motive : List Char → Prop} (cs : List Char) (nil : motive [])
    (tag : ∀ t rest, Tag.read? (t.chars.tail ++ rest) = some t → motive rest →
      motive ('<' :: (t.chars.tail ++ rest)))
    (char : ∀ c rest, (c = '<' → Tag.read? rest = none) → motive rest → motive (c :: rest)) :
    motive cs := by
  induction cs using pieces.induct with
  | case1 => exact nil
  | case2 c cs t ht ih =>
      rw [dite_eq_ite] at ht
      obtain ⟨rfl, hr⟩ := Option.ite_none_right_eq_some.1 ht
      obtain ⟨rest, rfl⟩ := Tag.eq_of_read? hr
      rw [← List.length_tail, List.drop_left] at ih
      exact tag t rest hr ih
  | case3 c cs hn ih => exact char c cs (by simpa using hn) ih

theorem flatMap_chars_pieces (cs : List Char) : (pieces cs).flatMap Piece.chars = cs := by
  induction cs using induction_pieces with
  | nil => rw [pieces, List.flatMap_nil]
  | tag t rest ht ih =>
      rw [pieces_read ht, List.flatMap_cons, ih]
      rfl
  | char c rest hc ih =>
      rw [pieces_unread hc, List.flatMap_cons, ih]
      rfl

/-- The cut of a page is the cut of its first part, then that of the rest. -/
theorem pieces_append (h : Bracketed cs) (rest : List Char) :
    pieces (cs ++ rest) = pieces cs ++ pieces rest := by
  induction cs using induction_pieces with
  | nil => rw [pieces, List.nil_append, List.nil_append]
  | tag t more ht ih =>
      have hm : Bracketed more := h.of_suffix ⟨'<' :: t.chars.tail, rfl⟩
      have hr := Tag.read?_append_of_mem h.mem_of_cons rest
      rw [ht, List.append_assoc] at hr
      rw [List.cons_append, List.append_assoc, pieces_read hr, pieces_read ht, ih hm,
        List.cons_append]
  | char c cs hc ih =>
      have hcs : Bracketed cs := h.of_suffix (List.suffix_cons c cs)
      have hr : c = '<' → Tag.read? (cs ++ rest) = none := by
        rintro rfl
        rw [Tag.read?_append_of_mem h.mem_of_cons rest, hc rfl]
      rw [List.cons_append, pieces_unread hr, pieces_unread hc, ih hcs, List.cons_append]

end TilePuzzle.Markup
