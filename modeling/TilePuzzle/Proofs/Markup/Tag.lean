import TilePuzzle.Markup.Tag
import TilePuzzle.Proofs.Text.Plain

namespace TilePuzzle.Markup

variable {c : Char} {after body name rest run s : List Char} {t : Tag}

structure ElementName (name : List Char) : Prop where
  letter : ∃ c ∈ name.head?, c.isAlpha
  alphanum : ∀ c ∈ name, c.isAlphanum

structure TagBody (body : List Char) : Prop where
  setOff : ∀ c ∈ body.head?, isTagName c = false ∧ Text.isWord c = false
  noBracket : ∀ c ∈ body, c ≠ '<' ∧ c ≠ '>'

structure Tag.WellFormed (t : Tag) : Prop where
  name : ElementName t.name
  body : TagBody t.body

instance : Decidable (ElementName name) :=
  decidable_of_iff (name.head?.any Char.isAlpha ∧ name.all Char.isAlphanum) <| by
    rw [Option.any_eq_true, List.all_eq_true]
    exact ⟨fun h => ⟨h.1, h.2⟩, fun h => ⟨h.letter, h.alphanum⟩⟩

instance : Decidable (TagBody body) :=
  decidable_of_iff (body.head?.all (fun c => !isTagName c && !Text.isWord c) ∧
      body.all fun c => c ≠ '<' && c ≠ '>') <| by
    simp only [Option.all_eq_true, List.all_eq_true, Bool.and_eq_true, Bool.not_eq_true',
      decide_eq_true_eq]
    exact ⟨fun h => ⟨h.1, h.2⟩, fun h => ⟨h.setOff, h.noBracket⟩⟩

instance : Decidable t.WellFormed :=
  decidable_of_iff (ElementName t.name ∧ TagBody t.body)
    ⟨fun h => ⟨h.1, h.2⟩, fun h => ⟨h.name, h.body⟩⟩

theorem ElementName.ne_nil (h : ElementName name) : name ≠ [] := by
  rintro rfl
  obtain ⟨c, hc, -⟩ := h.letter
  cases hc

theorem isAlphanum_iff_toNat : c.isAlphanum ↔ 48 ≤ c.toNat ∧ c.toNat ≤ 57 ∨
    65 ≤ c.toNat ∧ c.toNat ≤ 90 ∨ 97 ≤ c.toNat ∧ c.toNat ≤ 122 := by
  simp only [Text.isAlphanum_iff, Text.isAlpha_iff, Text.isUpper_iff_toNat,
    Text.isLower_iff_toNat, Char.isDigit_iff_toNat, Char.reduceToNat]
  omega

theorem isTagName_of_isAlphanum (h : c.isAlphanum) : isTagName c := by
  rw [Text.isAlphanum_iff] at h
  rcases h with h | h <;> simp [isTagName, isNameLetter, h]

theorem isWord_of_isAlphanum (h : c.isAlphanum) : Text.isWord c := by
  have hc := isAlphanum_iff_toNat.1 h
  rw [Text.isWord, if_pos (by omega), h, Bool.true_or]

theorem not_bracket_of_isAlphanum (h : c.isAlphanum) : c ≠ '<' ∧ c ≠ '>' := by
  constructor <;> rintro rfl <;> exact absurd h (by decide)

theorem boundary_of_isWord (hc : Text.isWord c) (h : ∀ d ∈ after.head?, Text.isWord d = false) :
    Text.boundary c after := by
  cases after with
  | nil => simp [Text.boundary, hc]
  | cons d after => simp [Text.boundary, hc, h d rfl]

theorem cutAtBoundary_eq_self (hne : run ≠ []) (h : ∀ c ∈ run, Text.isWord c)
    (ha : ∀ d ∈ after.head?, Text.isWord d = false) : cutAtBoundary run after = some run := by
  induction run with
  | nil => exact absurd rfl hne
  | cons c run ih =>
      obtain ⟨hc, hrun⟩ := List.forall_mem_cons.1 h
      cases run with
      | nil =>
          have hb := boundary_of_isWord hc ha
          simp only [cutAtBoundary, List.nil_append, hb, if_true]
      | cons d run => rw [cutAtBoundary, ih (List.cons_ne_nil d run) hrun]

theorem TagBody.nil : TagBody [] := by
  refine ⟨?_, List.forall_mem_nil _⟩
  rintro _ ⟨⟩

theorem TagBody.head?_append (h : TagBody body) (rest : List Char) :
    ∀ c ∈ (body ++ '>' :: rest).head?, isTagName c = false ∧ Text.isWord c = false := by
  cases body with
  | nil =>
      rintro _ ⟨⟩
      decide
  | cons c body => exact h.setOff

namespace Tag

theorem readName?_append (hn : ElementName name) (hb : TagBody body) (rest : List Char) :
    readName? (name ++ (body ++ '>' :: rest)) = some (name, body) := by
  have hcontent : ∀ c ∈ name ++ body, (c ≠ '<' && c ≠ '>') = true := by
    intro c hc
    have hc : c ≠ '<' ∧ c ≠ '>' := by
      rcases List.mem_append.1 hc with hc | hc
      · exact not_bracket_of_isAlphanum (hn.alphanum c hc)
      · exact hb.noBracket c hc
    simpa using hc
  have hc : (name ++ (body ++ '>' :: rest)).takeWhile (fun c => c ≠ '<' && c ≠ '>') =
      name ++ body := by
    rw [← List.append_assoc]
    exact (Text.span_append hcontent (by rintro _ ⟨⟩; decide)).1
  have hd : (name ++ (body ++ '>' :: rest)).drop (name ++ body).length = '>' :: rest := by
    rw [← List.append_assoc, List.drop_left]
  obtain ⟨htake, hdrop⟩ := Text.span_append
    (fun c hc => isTagName_of_isAlphanum (hn.alphanum c hc))
    (fun c hc => (hb.head?_append rest c hc).1)
  have hcut := cutAtBoundary_eq_self hn.ne_nil
    (fun c hc => isWord_of_isAlphanum (hn.alphanum c hc))
    (fun c hc => (hb.head?_append rest c hc).2)
  obtain ⟨c, hhead, hletter⟩ := hn.letter
  cases name with
  | nil => cases hhead
  | cons d name =>
      cases hhead
      have hl : isNameLetter c = true := by simp [isNameLetter, hletter]
      simp only [List.cons_append] at hc hd htake hdrop ⊢
      simp only [readName?, hl, if_true, hc, hd, htake, hdrop, hcut, Option.map_some]
      rw [← List.cons_append, List.drop_left]

theorem read?_append (h : t.WellFormed) (rest : List Char) :
    read? (t.chars.tail ++ rest) = some t := by
  obtain ⟨closing, name, body⟩ := t
  have hr := readName?_append h.name h.body rest
  cases closing with
  | true =>
      simp only [chars, if_true, List.cons_append, List.nil_append, List.tail_cons,
        List.append_assoc, read?, hr, Option.map_some]
  | false =>
      obtain ⟨c, hhead, hletter⟩ := h.name.letter
      cases name with
      | nil => cases hhead
      | cons d name =>
          cases hhead
          have hne : c ≠ '/' := by
            rintro rfl
            exact absurd hletter (by decide)
          rw [List.cons_append] at hr
          simp only [chars, if_false, List.cons_append, List.nil_append, List.tail_cons,
            List.append_assoc, Bool.false_eq_true]
          rw [read?, hr, Option.map_some]
          rintro _ ⟨⟩
          exact hne rfl

end Tag

theorem pieces_text (h : '<' ∉ s) : pieces (s ++ rest) = s.map .char ++ pieces rest := by
  induction s with
  | nil => rfl
  | cons c s ih =>
      obtain ⟨hc, hs⟩ := List.ne_and_not_mem_of_not_mem_cons h
      rw [List.cons_append, pieces, if_neg (Ne.symm hc), ih hs]
      rfl

theorem pieces_tag (h : t.WellFormed) : pieces (t.chars ++ rest) = .tag t :: pieces rest := by
  have hr := Tag.read?_append h rest
  have hc : t.chars = '<' :: t.chars.tail := rfl
  have hd : (t.chars.tail ++ rest).drop (t.chars.length - 1) = rest := by
    rw [← List.length_tail, List.drop_left]
  rw [hc, List.cons_append, pieces, if_pos rfl, hr]
  simp only [hd]

def Piece.WellFormed : Piece → Prop
  | .char c => c ≠ '<'
  | .tag t => t.WellFormed

/-- Pieces that are written out are found again, whatever comes after them. -/
theorem pieces_flatMap_chars {ps : List Piece} (h : ∀ p ∈ ps, p.WellFormed) (rest : List Char) :
    pieces (ps.flatMap Piece.chars ++ rest) = ps ++ pieces rest := by
  induction ps with
  | nil => rfl
  | cons p ps ih =>
      obtain ⟨hp, hps⟩ := List.forall_mem_cons.1 h
      rw [List.flatMap_cons, List.append_assoc]
      cases p with
      | char c =>
          have hc : '<' ∉ [c] := fun hm => hp (List.mem_singleton.1 hm).symm
          exact (pieces_text hc).trans (by rw [ih hps]; rfl)
      | tag t => exact (pieces_tag hp).trans (by rw [ih hps]; rfl)

end TilePuzzle.Markup
