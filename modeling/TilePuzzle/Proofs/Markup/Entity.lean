import Mathlib.Data.List.Infix
import TilePuzzle.Markup.Entity

namespace TilePuzzle.Markup

variable {pattern p : List Char} {c d : Char} {cs xs : List Char} {e : List Char × Char}

def escapeChar (c : Char) : List Char :=
  match c with
  | '&' => "&amp;".toList
  | '<' => "&lt;".toList
  | '>' => "&gt;".toList
  | '"' => "&quot;".toList
  | '\'' => "&#39;".toList
  | c => [c]

def escape (cs : List Char) : List Char :=
  cs.flatMap escapeChar

theorem replaceAll_prefix (h : pattern ≠ []) :
    replaceAll pattern c (pattern ++ cs) = c :: replaceAll pattern c cs := by
  obtain ⟨x, xs, rfl⟩ := List.exists_cons_of_ne_nil h
  have hp : (x :: xs).isPrefixOf (x :: (xs ++ cs)) := by
    rw [List.isPrefixOf_iff_prefix]
    exact List.prefix_append (x :: xs) cs
  rw [List.cons_append, replaceAll, if_pos hp, List.length_cons, Nat.add_sub_cancel,
    List.drop_left]

theorem replaceAll_cons (h : ¬pattern <+: d :: cs) :
    replaceAll pattern c (d :: cs) = d :: replaceAll pattern c cs := by
  rw [replaceAll, if_neg]
  rwa [List.isPrefixOf_iff_prefix]

/-- Text that a pattern without the replacement starts with was not written by the pass. -/
theorem prefix_of_prefix_replaceAll (hc : c ∉ p) (h : p <+: replaceAll pattern c cs) :
    p <+: cs := by
  induction p generalizing cs with
  | nil => exact List.nil_prefix
  | cons x p ih =>
      obtain ⟨hx, hp⟩ := List.ne_and_not_mem_of_not_mem_cons hc
      cases cs with
      | nil =>
          rw [replaceAll] at h
          exact h
      | cons y cs =>
          rw [replaceAll] at h
          split at h
          · exact absurd (List.cons_prefix_cons.1 h).1.symm hx
          · obtain ⟨rfl, ht⟩ := List.cons_prefix_cons.1 h
            exact List.cons_prefix_cons.2 ⟨rfl, ih hp ht⟩

theorem mem_entities (he : e ∈ entities) :
    ∃ name, e.1 = '&' :: name ∧ '&' ∉ name ∧ ∀ e' ∈ entities, e'.2 ∉ name := by
  have hall : ∀ e ∈ entities, e.1 = '&' :: e.1.tail ∧ '&' ∉ e.1.tail ∧
      ∀ e' ∈ entities, e'.2 ∉ e.1.tail := by
    decide +kernel
  exact ⟨e.1.tail, hall e he⟩

theorem prefix_starts_ampersand (he : e ∈ entities) (h : e.1 <+: c :: cs) : c = '&' := by
  obtain ⟨name, hn, -, -⟩ := mem_entities he
  rw [hn, List.cons_prefix_cons] at h
  exact h.1.symm

theorem replaceAll_append (h : ∀ x ∈ xs, x ≠ '&') (he : e ∈ entities) :
    replaceAll e.1 e.2 (xs ++ cs) = xs ++ replaceAll e.1 e.2 cs := by
  induction xs with
  | nil => rfl
  | cons x xs ih =>
      obtain ⟨hx, hxs⟩ := List.forall_mem_cons.1 h
      have hp : ¬e.1 <+: x :: (xs ++ cs) := fun hp => hx (prefix_starts_ampersand he hp)
      rw [List.cons_append, replaceAll_cons hp, ih hxs, List.cons_append]

theorem replaceAll_other {e' : List Char × Char} (he : e ∈ entities) (he' : e' ∈ entities)
    (hne : e ≠ e') : replaceAll e.1 e.2 (e'.1 ++ cs) = e'.1 ++ replaceAll e.1 e.2 cs := by
  have hall : ∀ e ∈ entities, ∀ e' ∈ entities, e ≠ e' → ¬e.1 <+: e'.1 := by
    decide +kernel
  have hp : ¬e.1 <+: e'.1 ++ cs := by
    intro hp
    rcases List.prefix_or_prefix_of_prefix hp (List.prefix_append _ _) with h | h
    · exact hall e he e' he' hne h
    · exact hall e' he' e he hne.symm h
  obtain ⟨name, hn, ha, -⟩ := mem_entities he'
  rw [hn, List.cons_append] at hp ⊢
  rw [replaceAll_cons hp, replaceAll_append (fun x hx h => ha (h ▸ hx)) he, List.cons_append]

section Passes

variable {es : List (List Char × Char)}

def passes (es : List (List Char × Char)) (cs : List Char) : List Char :=
  es.foldl (fun cs (pattern, c) => replaceAll pattern c cs) cs

theorem passes_cons (es : List (List Char × Char)) (cs : List Char) :
    passes (e :: es) cs = passes es (replaceAll e.1 e.2 cs) :=
  rfl

theorem passes_plain (hs : es ⊆ entities) (h : ∀ e ∈ es, ¬e.1 <+: c :: cs) :
    passes es (c :: cs) = c :: passes es cs := by
  induction es generalizing cs with
  | nil => rfl
  | cons e es ih =>
      obtain ⟨he, hes⟩ := List.cons_subset.1 hs
      obtain ⟨hp, h⟩ := List.forall_mem_cons.1 h
      have hr : ∀ e' ∈ es, ¬e'.1 <+: c :: replaceAll e.1 e.2 cs := by
        intro e' he' hp
        obtain ⟨name, hn, -, hw⟩ := mem_entities (hes he')
        rw [hn, List.cons_prefix_cons] at hp
        refine h e' he' ?_
        rw [hn, List.cons_prefix_cons]
        exact ⟨hp.1, prefix_of_prefix_replaceAll (hw e he) hp.2⟩
      rw [passes_cons, passes_cons, replaceAll_cons hp, ih hes hr]

/-- The passes after one that writes an ampersand could take it for the start of an entity. -/
theorem passes_entity (hs : es ⊆ entities) (ho : es.Pairwise fun e _ => e.2 ≠ '&')
    (he : e ∈ es) : passes es (e.1 ++ cs) = e.2 :: passes es cs := by
  induction es generalizing cs with
  | nil => cases he
  | cons e' es ih =>
      obtain ⟨he', hes⟩ := List.cons_subset.1 hs
      obtain ⟨ha, ho⟩ := List.pairwise_cons.1 ho
      by_cases hee : e = e'
      · subst hee
        obtain ⟨name, hn, -, -⟩ := mem_entities he'
        rw [passes_cons, passes_cons, replaceAll_prefix (by rw [hn]; exact List.cons_ne_nil _ _)]
        cases es with
        | nil => rfl
        | cons e'' es =>
            apply passes_plain hes
            intro e₂ he₂ hp
            exact ha e'' List.mem_cons_self (prefix_starts_ampersand (hes he₂) hp)
      · have he := List.mem_of_ne_of_mem hee he
        rw [passes_cons, passes_cons, replaceAll_other he' (hes he) (Ne.symm hee),
          ih hes ho he]

end Passes

theorem decodeEntities_plain (h : ∀ e ∈ entities, ¬e.1 <+: c :: cs) :
    decodeEntities (c :: cs) = c :: decodeEntities cs :=
  passes_plain (List.Subset.refl _) h

theorem decodeEntities_entity (he : e ∈ entities) :
    decodeEntities (e.1 ++ cs) = e.2 :: decodeEntities cs :=
  passes_entity (List.Subset.refl _) (by decide) he

theorem decodeEntities_cons (h : c ≠ '&') :
    decodeEntities (c :: cs) = c :: decodeEntities cs := by
  apply decodeEntities_plain
  intro e he hp
  exact h (prefix_starts_ampersand he hp)

theorem decodeEntities_nil : decodeEntities [] = [] := by
  simp [decodeEntities, entities, replaceAll]

theorem decodeEntities_eq_self (h : '&' ∉ cs) : decodeEntities cs = cs := by
  induction cs with
  | nil => exact decodeEntities_nil
  | cons c cs ih =>
      obtain ⟨hc, hcs⟩ := List.ne_and_not_mem_of_not_mem_cons h
      rw [decodeEntities_cons (Ne.symm hc), ih hcs]

theorem decodeEntities_escapeChar (c : Char) (cs : List Char) :
    decodeEntities (escapeChar c ++ cs) = c :: decodeEntities cs := by
  unfold escapeChar
  split
  case h_6 hamp _ _ _ _ => exact decodeEntities_cons hamp
  all_goals exact decodeEntities_entity (e := (_, _)) (by decide)

theorem not_mem_escape (h : c ∈ ['<', '>', '"', '\'']) (cs : List Char) : c ∉ escape cs := by
  rw [escape, List.mem_flatMap]
  rintro ⟨d, -, hc⟩
  unfold escapeChar at hc
  simp only [List.mem_cons, List.not_mem_nil, or_false] at h
  split at hc
  case h_6 hamp hlt hgt hquot hapos =>
    rw [List.mem_singleton] at hc
    subst hc
    rcases h with h | h | h | h
    exacts [hlt h, hgt h, hquot h, hapos h]
  all_goals rcases h with rfl | rfl | rfl | rfl <;> exact absurd hc (by decide)

theorem decodeEntities_escape (cs : List Char) : decodeEntities (escape cs) = cs := by
  induction cs with
  | nil => exact decodeEntities_nil
  | cons c cs ih =>
      rw [escape, List.flatMap_cons, decodeEntities_escapeChar, ← escape, ih]

end TilePuzzle.Markup
