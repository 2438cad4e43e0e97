import Mathlib.Data.List.Perm.Basic
import TilePuzzle.Proofs.Variables.Coherent
import TilePuzzle.Proofs.Variables.Total

namespace TilePuzzle.Variables

variable {a b c vars : Variables} {texts texts' : List String} {total : Int}

/-- The same names with the same texts. -/
structure Same (a b : Variables) : Prop where
  left : a.Coherent
  right : b.Coherent
  texts : ∀ name, a.get? name = b.get? name

namespace Same

theorem refl (h : vars.Coherent) : Same vars vars :=
  ⟨h, h, fun _ => rfl⟩

theorem trans (h : Same a b) (h' : Same b c) : Same a c :=
  ⟨h.left, h'.right, fun name => (h.texts name).trans (h'.texts name)⟩

theorem set (h : Same a b) (name text : String) : Same (a.set name text) (b.set name text) := by
  refine ⟨h.left.set name text, h.right.set name text, fun other => ?_⟩
  rw [h.left.get?_set, h.right.get?_set, h.texts]

end Same

theorem Coherent.same_set_set (h : vars.Coherent) {name name' : String} (hn : name ≠ name')
    (text text' : String) :
    Same ((vars.set name text).set name' text') ((vars.set name' text').set name text) := by
  have h₁ := h.set name text
  have h₂ := h.set name' text'
  refine ⟨h₁.set name' text', h₂.set name text, fun other => ?_⟩
  rw [h₁.get?_set, h.get?_set, h₂.get?_set, h.get?_set]
  split_ifs with ho' ho
  · exact absurd (ho.symm.trans ho') hn
  all_goals rfl

theorem Coherent.nodup_toList (h : vars.Coherent) : vars.toList.Nodup :=
  List.Nodup.of_map Prod.fst h.nodup_names

theorem Same.perm (h : Same a b) : a.toList.Perm b.toList := by
  rw [List.perm_ext_iff_of_nodup h.left.nodup_toList h.right.nodup_toList]
  rintro ⟨name, text⟩
  rw [← h.left.get?_eq_some_iff, ← h.right.get?_eq_some_iff, h.texts]

theorem Same.isEmpty_eq (h : Same a b) : a.isEmpty = b.isEmpty := by
  rw [Bool.eq_iff_iff, isEmpty_iff, isEmpty_iff]
  constructor
  · intro ha
    exact (ha ▸ h.perm).nil_eq.symm
  · intro hb
    exact (hb ▸ h.perm).eq_nil

theorem sum_perm (h : texts.Perm texts') :
    ∀ acc, sum acc texts = .ok total ↔ sum acc texts' = .ok total := by
  induction h with
  | nil => exact fun _ => Iff.rfl
  | cons text h ih =>
      intro acc
      simp only [sum_cons_eq_ok_iff, ih]
  | swap text text' texts =>
      intro acc
      simp only [sum_cons_eq_ok_iff]
      constructor
      · rintro ⟨z', hz', z, hz, h⟩
        exact ⟨z, hz, z', hz', add_right_comm acc z' z ▸ h⟩
      · rintro ⟨z, hz, z', hz', h⟩
        exact ⟨z', hz', z, hz, add_right_comm acc z z' ▸ h⟩
  | trans h₁ h₂ ih₁ ih₂ => exact fun acc => (ih₁ acc).trans (ih₂ acc)

theorem Same.total_eq_ok_iff (h : Same a b) : a.total = .ok total ↔ b.total = .ok total :=
  sum_perm (h.perm.map Prod.snd) 0

end TilePuzzle.Variables
