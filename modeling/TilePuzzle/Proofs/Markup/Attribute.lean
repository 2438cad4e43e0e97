import TilePuzzle.Markup.Attribute
import TilePuzzle.Proofs.Text.Plain

namespace TilePuzzle.Markup

variable {c q : Char} {a : Attribute} {body cs name written rest s s₁ s₂ : List Char}

theorem isAttributeName_of_isSpace (h : Text.isSpace c) : isAttributeName c = false := by
  rw [← Bool.not_eq_true]
  intro hn
  simp only [isAttributeName, isAttributeStart, isNameLetter, Text.isAlpha_iff, Bool.or_eq_true,
    decide_eq_true_eq, Text.isUpper_iff_toNat, Text.isLower_iff_toNat, Char.isDigit_iff_toNat,
    ← Char.toNat_inj, Char.reduceToNat] at hn
  simp only [Text.isSpace, Bool.or_eq_true, Bool.and_eq_true, decide_eq_true_eq] at h
  omega

theorem isAttributeStart_of_isSpace (h : Text.isSpace c) : isAttributeStart c = false := by
  have hn := isAttributeName_of_isSpace h
  simp only [isAttributeName, Bool.or_eq_false_iff] at hn
  exact hn.1.1.1

/-- The names that match `[A-Za-z_:][A-Za-z0-9_:.-]*`. -/
def AttributeName : List Char → Prop
  | [] => False
  | c :: cs => (c.isAlpha ∨ c ∈ ['_', ':']) ∧
    ∀ d ∈ cs, d.isAlphanum ∨ d ∈ ['_', ':', '.', '-']

namespace AttributeName

instance (name : List Char) : Decidable (AttributeName name) :=
  match name with
  | [] => .isFalse id
  | _ :: cs => @instDecidableAnd _ _ inferInstance (List.decidableBAll _ cs)

theorem start (h : AttributeName name) : ∃ c ∈ name.head?, isAttributeStart c := by
  cases name with
  | nil => exact h.elim
  | cons c cs =>
      refine ⟨c, rfl, ?_⟩
      rcases h.1 with ha | hs
      · simp [isAttributeStart, isNameLetter, ha]
      · simp only [List.mem_cons, List.not_mem_nil, or_false] at hs
        rcases hs with rfl | rfl <;> decide

theorem forall_mem (h : AttributeName name) :
    ∀ c ∈ name, c.isAlphanum ∨ c ∈ ['_', ':', '.', '-'] := by
  cases name with
  | nil => exact h.elim
  | cons c cs =>
      refine List.forall_mem_cons.2 ⟨?_, h.2⟩
      exact h.1.imp (fun ha => Text.isAlphanum_iff.2 (.inl ha)) (List.mem_append_left ['.', '-'])

theorem isAttributeName (h : AttributeName name) : ∀ c ∈ name, isAttributeName c := by
  intro c hc
  rcases h.forall_mem c hc with ha | hs
  · rcases Text.isAlphanum_iff.1 ha with ha | hd
    · simp [Markup.isAttributeName, isAttributeStart, isNameLetter, ha]
    · simp [Markup.isAttributeName, hd]
  · simp only [List.mem_cons, List.not_mem_nil, or_false] at hs
    rcases hs with rfl | rfl | rfl | rfl <;> decide

theorem noBracket (h : AttributeName name) : ∀ c ∈ name, c ≠ '<' ∧ c ≠ '>' := by
  intro c hc
  have hn := h.isAttributeName c hc
  constructor <;> rintro rfl <;> exact absurd hn (by decide)

theorem ascii (h : AttributeName name) : ∀ c ∈ name, c.toNat < 128 := by
  intro c hc
  rcases h.forall_mem c hc with ha | hs
  · rw [Text.isAlphanum_iff, Text.isAlpha_iff, Text.isUpper_iff_toNat, Text.isLower_iff_toNat,
      Char.isDigit_iff_toNat] at ha
    simp only [Char.reduceToNat] at ha
    omega
  · simp only [List.mem_cons, List.not_mem_nil, or_false] at hs
    rcases hs with rfl | rfl | rfl | rfl <;> decide

end AttributeName

theorem value?_quoted (hq : q = '"' ∨ q = '\'') (h : q ∉ body) (rest : List Char) :
    value? (q :: (body ++ q :: rest)) = some (body, body.length + 2) := by
  have hs := (Text.cut_append h rest).1
  have hq : (q = '"' || q = '\'') = true := by simpa using hq
  have hl : body.length < (body ++ q :: rest).length := by simp
  simp only [value?, hq, hs, hl, if_true]

theorem not_quote_of_isBareValue (h : isBareValue c) : (c = '"' || c = '\'') = false := by
  rw [← Bool.not_eq_true]
  intro hq
  rw [Bool.or_eq_true, decide_eq_true_eq, decide_eq_true_eq] at hq
  rcases hq with rfl | rfl <;> exact absurd h (by decide)

theorem value?_bare (hne : body ≠ []) (h : ∀ c ∈ body, isBareValue c)
    (hr : ∀ c ∈ rest.head?, isBareValue c = false) :
    value? (body ++ rest) = some (body, body.length) := by
  have hs := (Text.span_append h hr).1
  obtain ⟨c, cs, rfl⟩ := List.exists_cons_of_ne_nil hne
  have hq := not_quote_of_isBareValue (h c List.mem_cons_self)
  rw [List.cons_append] at hs ⊢
  simp only [value?, hq, hs, hne, Bool.false_eq_true, if_false]

/-- A value starts right after the white space that is skipped for it. -/
theorem not_isSpace_of_value? {v : List Char × Nat} (h : value? cs = some v) :
    ∀ c ∈ cs.head?, Text.isSpace c = false := by
  cases cs with
  | nil => exact nofun
  | cons c cs =>
      rintro _ ⟨⟩
      by_contra hs
      rw [Bool.not_eq_false] at hs
      have hq : (c = '"' || c = '\'') = false := by
        rw [← Bool.not_eq_true]
        intro hq
        rw [Bool.or_eq_true, decide_eq_true_eq, decide_eq_true_eq] at hq
        rcases hq with rfl | rfl <;> exact absurd hs (by decide)
      have hb : isBareValue c = false := by simp [isBareValue, hs]
      simp [value?, hq, hb] at h

namespace Attribute

theorem read?_append (hs : ∃ c ∈ name.head?, isAttributeStart c)
    (hn : ∀ c ∈ name, isAttributeName c) (h₁ : ∀ c ∈ s₁, Text.isSpace c)
    (h₂ : ∀ c ∈ s₂, Text.isSpace c)
    (hv : value? (written ++ rest) = some (body, written.length)) :
    read? (name ++ (s₁ ++ '=' :: (s₂ ++ written)) ++ rest) =
      some (⟨String.ofList (Text.lower name), String.ofList (decodeEntities body)⟩,
        (name ++ (s₁ ++ '=' :: (s₂ ++ written))).length) := by
  have hafter : ∀ c ∈ (s₁ ++ '=' :: (s₂ ++ (written ++ rest))).head?, isAttributeName c = false := by
    cases s₁ with
    | nil =>
        rintro _ ⟨⟩
        decide
    | cons c s₁ =>
        rintro _ ⟨⟩
        exact isAttributeName_of_isSpace (h₁ c List.mem_cons_self)
  obtain ⟨ht, hd⟩ := Text.span_append hn hafter
  have he : Text.trimStart (s₁ ++ '=' :: (s₂ ++ (written ++ rest))) =
      '=' :: (s₂ ++ (written ++ rest)) := by
    refine Text.trimStart_append h₁ ?_
    rintro _ ⟨⟩
    decide
  have hw := Text.trimStart_append h₂ (not_isSpace_of_value? hv)
  simp only [List.append_assoc, List.cons_append]
  cases name with
  | nil =>
      obtain ⟨c, hc, -⟩ := hs
      cases hc
  | cons c name =>
      obtain ⟨_, ⟨⟩, hs⟩ := hs
      rw [List.cons_append] at ht hd ⊢
      simp only [read?, hs, if_true, ht, hd, he, hw, hv, Option.map_some]
      simp only [List.length_cons, List.length_append]
      congr 2
      omega

theorem ofText_skip (h : ∀ c ∈ s, isAttributeStart c = false) :
    ofText (s ++ rest) = ofText rest := by
  induction s with
  | nil => rfl
  | cons c s ih =>
      obtain ⟨hc, hs⟩ := List.forall_mem_cons.1 h
      have hr : read? (c :: (s ++ rest)) = none := by simp [read?, hc]
      rw [List.cons_append, ofText, hr]
      exact ih hs

theorem ofText_append (hne : cs ≠ []) (h : read? (cs ++ rest) = some (a, cs.length)) :
    ofText (cs ++ rest) = a :: ofText rest := by
  obtain ⟨c, cs, rfl⟩ := List.exists_cons_of_ne_nil hne
  rw [List.cons_append] at h ⊢
  rw [ofText, h]
  simp

theorem ofText_attribute (s s₁ s₂ : List Char) (h : ∀ c ∈ s, Text.isSpace c)
    (hs : ∃ c ∈ name.head?, isAttributeStart c)
    (hn : ∀ c ∈ name, isAttributeName c) (h₁ : ∀ c ∈ s₁, Text.isSpace c)
    (h₂ : ∀ c ∈ s₂, Text.isSpace c)
    (hv : value? (written ++ rest) = some (body, written.length)) :
    ofText (s ++ (name ++ (s₁ ++ '=' :: (s₂ ++ written)) ++ rest)) =
      ⟨String.ofList (Text.lower name), String.ofList (decodeEntities body)⟩ :: ofText rest := by
  rw [ofText_skip fun c hc => isAttributeStart_of_isSpace (h c hc)]
  refine ofText_append ?_ (read?_append hs hn h₁ h₂ hv)
  simp

end Attribute

end TilePuzzle.Markup
