import Mathlib.Logic.Function.Iterate
import TilePuzzle.Proofs.Markup.Entity

namespace TilePuzzle.Markup

variable {cs : List Char} {es : List (List Char × Char)}

def onePass (es : List (List Char × Char)) : List Char → List Char
  | [] => []
  | x :: xs =>
    match es.find? fun e => e.1.isPrefixOf (x :: xs) with
    | some e => e.2 :: onePass es (xs.drop (e.1.length - 1))
    | none => x :: onePass es xs
termination_by cs => cs.length
decreasing_by
  · simp only [List.length_drop, List.length_cons]; omega
  · simp

theorem passes_nil (es : List (List Char × Char)) : passes es [] = [] := by
  induction es with
  | nil => rfl
  | cons e es ih => rw [passes_cons, replaceAll, ih]

/-- As the ampersand comes last, no pass meets what another one wrote. -/
theorem passes_eq_onePass (hs : es ⊆ entities) (ho : es.Pairwise fun e _ => e.2 ≠ '&')
    (cs : List Char) : passes es cs = onePass es cs := by
  induction cs using onePass.induct es with
  | case1 => rw [passes_nil, onePass]
  | case2 x xs e hf ih =>
      have he : e ∈ es := List.mem_of_find?_eq_some hf
      have hp := List.find?_some hf
      rw [List.isPrefixOf_iff_prefix] at hp
      obtain ⟨rest, hx⟩ := hp
      have hd : xs.drop (e.1.length - 1) = rest := by
        obtain ⟨name, hn, -⟩ := mem_entities (hs he)
        rw [hn, List.cons_append] at hx
        obtain ⟨-, rfl⟩ := List.cons.inj hx
        rw [hn, List.length_cons, Nat.add_sub_cancel, List.drop_left]
      rw [hd] at ih
      rw [onePass, hf, ← hx, passes_entity hs ho he, ih]
      simp only [hd]
  | case3 x xs hf ih =>
      have hp : ∀ e ∈ es, ¬e.1 <+: x :: xs := by
        intro e he hp
        have hn := List.find?_eq_none.1 hf e he
        exact hn (List.isPrefixOf_iff_prefix.2 hp)
      rw [onePass, hf, passes_plain hs hp, ih]

theorem passes_of_isPrefix (h : es <+: entities) (cs : List Char) :
    passes es cs = onePass es cs := by
  have ho : entities.Pairwise fun e _ => e.2 ≠ '&' := by decide
  exact passes_eq_onePass h.subset (ho.sublist h.sublist) cs

theorem decodeEntities_iterate (n : Nat) (cs : List Char) :
    decodeEntities^[n] (escape^[n] cs) = cs :=
  Function.LeftInverse.iterate decodeEntities_escape n cs

/-- Entities are decoded as in one pass, and after each of the passes that decoding takes the text
is as after one pass for the entities so far. So a text that was escaped comes back, also if it was
escaped before. -/
theorem decodeEntities_in_one_pass :
    (∀ cs, decodeEntities cs = onePass entities cs) ∧
    (∀ es, es <+: entities → ∀ cs, passes es cs = onePass es cs) ∧
    ∀ n cs, decodeEntities^[n] (escape^[n] cs) = cs :=
  ⟨passes_of_isPrefix (List.prefix_refl _), fun _ h => passes_of_isPrefix h, decodeEntities_iterate⟩

/-- Had the ampersand been decoded first, an escaped entity would have been decoded twice. -/
example : passes entities.reverse "&amp;lt;".toList = ['<'] ∧
    onePass entities.reverse "&amp;lt;".toList = "&lt;".toList := by
  decide +kernel

end TilePuzzle.Markup
