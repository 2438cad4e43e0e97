import Mathlib.Algebra.BigOperators.Group.List.Basic
import Mathlib.Algebra.Ring.Int.Defs
import TilePuzzle.Proofs.Variables.Integer

namespace TilePuzzle.Variables

variable {vars : Variables} {total : Int}

def Denotes (vars : Variables) (zs : List Int) : Prop :=
  vars.toList.map (fun entry => Decimal.int? entry.2.toList) = zs.map some

theorem sum_cons_eq_ok_iff {acc : Int} {text : String} {texts : List String} :
    sum acc (text :: texts) = .ok total ↔
      ∃ z, integer text = .ok z ∧ sum (acc + z) texts = .ok total := by
  rw [sum]
  cases integer text with
  | error e => simp
  | ok z => simp

theorem sum_eq_ok_iff (acc : Int) (texts : List String) :
    sum acc texts = .ok total ↔
      ∃ zs : List Int, texts.map (fun text => Decimal.int? text.toList) = zs.map some ∧
        total = acc + zs.sum := by
  induction texts generalizing acc with
  | nil =>
      rw [sum, Except.ok.injEq]
      constructor
      · rintro rfl
        exact ⟨[], rfl, by rw [List.sum_nil, add_zero]⟩
      · rintro ⟨zs, hz, rfl⟩
        rw [List.map_eq_nil_iff.1 hz.symm, List.sum_nil, add_zero]
  | cons text texts ih =>
      simp only [sum_cons_eq_ok_iff, integer_eq_ok_iff, ← Decimal.int?_eq_some_iff, ih,
        List.map_cons]
      constructor
      · rintro ⟨z, hz, zs, hm, rfl⟩
        exact ⟨z :: zs, by rw [hz, hm, List.map_cons], by rw [List.sum_cons, add_assoc]⟩
      · rintro ⟨_ | ⟨z, zs⟩, hm, rfl⟩
        · cases hm
        · rw [List.map_cons, List.cons.injEq] at hm
          exact ⟨z, hm.1, zs, hm.2, by rw [List.sum_cons, add_assoc]⟩

theorem total_eq_ok_iff :
    vars.total = .ok total ↔ ∃ zs, vars.Denotes zs ∧ total = zs.sum := by
  rw [Variables.total, sum_eq_ok_iff]
  simp only [List.map_map, zero_add]
  rfl

theorem exists_total_iff :
    (∃ total, vars.total = .ok total) ↔ ∀ entry ∈ vars.toList, Numeric entry.2 := by
  simp only [total_eq_ok_iff, Denotes, Numeric, ← Decimal.int?_eq_some_iff]
  constructor
  · rintro ⟨_, zs, hz, -⟩ entry he
    have hm := List.mem_map_of_mem (f := fun entry => Decimal.int? entry.2.toList) he
    rw [hz] at hm
    obtain ⟨z, -, hz'⟩ := List.mem_map.1 hm
    exact ⟨z, hz'.symm⟩
  · intro h
    refine ⟨_, vars.toList.map fun entry => (Decimal.int? entry.2.toList).getD 0, ?_, rfl⟩
    rw [List.map_map]
    refine List.map_congr_left fun entry he => ?_
    obtain ⟨z, hz⟩ := h entry he
    simp [hz]

end TilePuzzle.Variables
