import TilePuzzle.Proofs.Codec.Tokens

namespace TilePuzzle

namespace Text

variable {cs s : List Char} {ws : List (List Char)}

/-- Words in their places on a line, each with the white space before it, and the white space after
the last one. Only the first word may stand without any. -/
structure Layout where
  parts : List (List Char × List Char)
  trail : List Char
  isSpace_gap : ∀ p ∈ parts, ∀ c ∈ p.1, isSpace c
  isWord : ∀ p ∈ parts, IsWord p.2
  gap_ne_nil : ∀ p ∈ parts.tail, p.1 ≠ []
  isSpace_trail : ∀ c ∈ trail, isSpace c

namespace Layout

def words (l : Layout) : List (List Char) :=
  l.parts.map Prod.snd

def chars (l : Layout) : List Char :=
  l.parts.flatMap (fun p => p.1 ++ p.2) ++ l.trail

end Layout

theorem Spaced.spaces (hs : ∀ c ∈ s, isSpace c) (h : Spaced cs ws) : Spaced (s ++ cs) ws := by
  induction s with
  | nil => exact h
  | cons c s ih =>
      obtain ⟨hc, hs⟩ := List.forall_mem_cons.1 hs
      exact .space hc (ih hs)

theorem Layout.spaced (l : Layout) : Spaced l.chars l.words := by
  obtain ⟨parts, trail, hgap, hword, hne, htrail⟩ := l
  induction parts with
  | nil => simpa [chars, words] using Spaced.nil.spaces htrail
  | cons p parts ih =>
      obtain ⟨hg, hgap⟩ := List.forall_mem_cons.1 hgap
      obtain ⟨hw, hword⟩ := List.forall_mem_cons.1 hword
      have hrest := ih hgap hword fun q hq => hne q (List.mem_of_mem_tail hq)
      have hend : ∀ c ∈ (parts.flatMap (fun p => p.1 ++ p.2) ++ trail).head?, isSpace c := by
        cases parts with
        | nil => exact fun c hc => htrail c (List.mem_of_mem_head? hc)
        | cons q parts =>
            obtain ⟨c, gap, hq⟩ := List.exists_cons_of_ne_nil (hne q List.mem_cons_self)
            have hc := hgap q List.mem_cons_self c (hq ▸ List.mem_cons_self)
            rw [List.flatMap_cons, hq]
            rintro _ ⟨⟩
            exact hc
      rw [chars, List.flatMap_cons, List.append_assoc, List.append_assoc]
      exact .spaces hg (.word hw hend hrest)

theorem Spaced.exists_layout (h : Spaced cs ws) : ∃ l : Layout, l.words = ws ∧ l.chars = cs := by
  induction h with
  | nil => exact ⟨⟨[], [], nofun, nofun, nofun, nofun⟩, rfl, rfl⟩
  | @space c cs ws hc h ih =>
      obtain ⟨⟨parts, trail, hgap, hword, hne, htrail⟩, rfl, rfl⟩ := ih
      cases parts with
      | nil =>
          have htrail' : ∀ d ∈ c :: trail, isSpace d := List.forall_mem_cons.2 ⟨hc, htrail⟩
          exact ⟨⟨[], c :: trail, nofun, nofun, nofun, htrail'⟩, rfl, rfl⟩
      | cons p parts =>
          obtain ⟨hg, hgap⟩ := List.forall_mem_cons.1 hgap
          obtain ⟨hw, hword⟩ := List.forall_mem_cons.1 hword
          exact ⟨⟨(c :: p.1, p.2) :: parts, trail,
            List.forall_mem_cons.2 ⟨List.forall_mem_cons.2 ⟨hc, hg⟩, hgap⟩,
            List.forall_mem_cons.2 ⟨hw, hword⟩, hne, htrail⟩, rfl, rfl⟩
  | @word w rest ws hw hr h ih =>
      obtain ⟨⟨parts, trail, hgap, hword, hne, htrail⟩, rfl, rfl⟩ := ih
      refine ⟨⟨([], w) :: parts, trail, List.forall_mem_cons.2 ⟨nofun, hgap⟩,
        List.forall_mem_cons.2 ⟨hw, hword⟩, ?_, htrail⟩, rfl, ?_⟩
      · cases parts with
        | nil => exact nofun
        | cons p parts =>
            -- The text after a word begins with white space, so the next word does not touch it.
            refine List.forall_mem_cons.2 ⟨fun hn => ?_, hne⟩
            obtain ⟨hne', hp⟩ := hword p List.mem_cons_self
            obtain ⟨c, v, hv⟩ := List.exists_cons_of_ne_nil hne'
            have hc : isSpace c := hr c (by simp [Layout.chars, hn, hv])
            rw [hp c (hv ▸ List.mem_cons_self)] at hc
            cases hc
      · simp [Layout.chars]

end Text

namespace Frame

variable {cs ds : List Char} {line : String} {tokens : List String}

inductive Quoted : List Char → List Char → Prop
  | nil : Quoted [] []
  | quote {cs ds : List Char} (h : Quoted cs ds) : Quoted cs ('"' :: ds)
  | keep {cs ds : List Char} (c : Char) (h : Quoted cs ds) : Quoted (c :: cs) (c :: ds)

/-- A line made of tokens: they are laid out as words, and double quotes are put in. -/
structure MadeOf (tokens : List String) (line : String) : Prop where
  isToken : ∀ token ∈ tokens, IsToken token
  layout : ∃ l : Text.Layout, l.words = tokens.map String.toList ∧ Quoted l.chars line.toList

theorem quoted_filter (ds : List Char) : Quoted (ds.filter (· ≠ '"')) ds := by
  induction ds with
  | nil => exact .nil
  | cons d ds ih =>
      by_cases hd : d = '"'
      · subst hd
        exact .quote ih
      · rw [List.filter_cons_of_pos (by simpa using hd)]
        exact .keep d ih

theorem Quoted.filter_eq (h : Quoted cs ds) (hq : '"' ∉ cs) : ds.filter (· ≠ '"') = cs := by
  induction h with
  | nil => rfl
  | quote h ih => exact ih hq
  | keep c h ih =>
      obtain ⟨hc, hcs⟩ := List.ne_and_not_mem_of_not_mem_cons hq
      rw [List.filter_cons_of_pos (by simpa using Ne.symm hc), ih hcs]

theorem quote_not_mem_chars (l : Text.Layout) (h : ∀ w ∈ l.words, '"' ∉ w) : '"' ∉ l.chars := by
  intro hq
  obtain ⟨w, hw, hq⟩ := l.spaced.mem_iff.2 ⟨hq, by decide⟩
  exact h w hw hq

theorem tokenized_iff_madeOf : Tokenized line tokens ↔ MadeOf tokens line := by
  constructor
  · intro h
    obtain ⟨l, hw, hc⟩ := h.exists_layout
    refine ⟨h.isToken, l, hw, ?_⟩
    rw [hc]
    exact quoted_filter line.toList
  · rintro ⟨ht, l, hw, hq⟩
    have hn : '"' ∉ l.chars := by
      apply quote_not_mem_chars
      rw [hw, List.forall_mem_map]
      exact fun token hm => (ht token hm).2
    rw [Tokenized, hq.filter_eq hn, ← hw]
    exact l.spaced

theorem join_tokens (line : String) : String.join (Frame.tokens line) =
    String.ofList (line.toList.filter fun c => c ≠ '"' && !Text.isSpace c) := by
  have h : Tokenized line (Frame.tokens line) := tokens_eq_iff.1 rfl
  rw [← String.toList_inj, String.toList_join, String.toList_ofList, List.flatMap_def, h.flatten_eq,
    List.filter_filter]
  simp only [Bool.and_comm]

/-- A line has exactly the tokens that it is made of. They are all of the line but its double quotes
and its white space, each character once and in its place. -/
theorem tokens_iff_madeOf (line : String) :
    (∀ tokens, Frame.tokens line = tokens ↔ MadeOf tokens line) ∧
    String.join (Frame.tokens line) =
      String.ofList (line.toList.filter fun c => c ≠ '"' && !Text.isSpace c) :=
  ⟨fun _ => tokens_eq_iff.trans tokenized_iff_madeOf, join_tokens line⟩

example : Frame.tokens "\" ST\"ORE\u2003\"\" \t\"5\"" = ["STORE", "5"] := by
  decide +kernel

end Frame

end TilePuzzle
