import Mathlib.Data.Finset.Card
import Mathlib.Data.List.Induction
import TilePuzzle.Proofs.Variables.Coherent

namespace TilePuzzle.Variables

def setAll (vars : Variables) (writes : List (String × String)) : Variables :=
  writes.foldl (fun vars write => vars.set write.1 write.2) vars

theorem setAll_concat (vars : Variables) (writes : List (String × String))
    (write : String × String) :
    vars.setAll (writes ++ [write]) = (vars.setAll writes).set write.1 write.2 := by
  rw [setAll, List.foldl_append]
  rfl

theorem coherent_setAll (writes : List (String × String)) : (empty.setAll writes).Coherent := by
  induction writes using List.reverseRecOn with
  | nil => exact coherent_empty
  | append_singleton writes write ih =>
      rw [setAll_concat]
      exact ih.set write.1 write.2

theorem length_names (vars : Variables) : vars.names.length = vars.size := by
  rw [names, toList, List.length_map, Array.length_toList]
  rfl

theorem eraseDups_concat (ns : List String) (n : String) :
    (ns ++ [n]).eraseDups = if n ∈ ns then ns.eraseDups else ns.eraseDups ++ [n] := by
  rw [List.eraseDups_append]
  by_cases hn : n ∈ ns <;> simp [List.removeAll, hn, List.eraseDups_cons]

theorem names_setAll (writes : List (String × String)) :
    (empty.setAll writes).names = (writes.map Prod.fst).eraseDups := by
  induction writes using List.reverseRecOn with
  | nil => rfl
  | append_singleton writes write ih =>
      rw [setAll_concat, (coherent_setAll writes).names_set, ih, List.map_append,
        List.map_singleton, eraseDups_concat]
      simp only [List.mem_eraseDups]

theorem get?_setAll (writes : List (String × String)) (name : String) :
    (empty.setAll writes).get? name = writes.reverse.lookup name := by
  induction writes using List.reverseRecOn with
  | nil => simp [setAll, empty, get?]
  | append_singleton writes write ih =>
      rw [setAll_concat, (coherent_setAll writes).get?_set, List.reverse_append,
        List.reverse_singleton, List.singleton_append, List.lookup_cons, ih]
      by_cases hn : name = write.1
      · rw [if_pos hn, beq_iff_eq.2 hn]
      · rw [if_neg hn, beq_eq_false_iff_ne.2 hn]

theorem names_eq_nil_iff (vars : Variables) : vars.names = [] ↔ vars.isEmpty := by
  rw [isEmpty_iff, names, List.map_eq_nil_iff]

/-- Index and entries agree after any writes. The entries are a map in which names stand in the
order of their first writes and hold the texts of their last ones. -/
theorem setAll_orders_first_writes (writes : List (String × String)) :
    let vars : Variables := setAll empty writes
    (∀ name slot, vars.index[name]? = some slot ↔
      ∃ h : slot < vars.entries.size, vars.entries[slot].1 = name) ∧
    vars.names.Nodup ∧
    vars.names = (writes.map Prod.fst).eraseDups ∧
    (∀ name text, (name, text) ∈ vars.toList ↔ writes.reverse.lookup name = some text) ∧
    (∀ name, vars.get? name = writes.reverse.lookup name) ∧
    (∀ name, vars.require name = match writes.reverse.lookup name with
      | some text => .ok text
      | none => .error (.undefinedVariable name)) ∧
    vars.size = (writes.map Prod.fst).toFinset.card ∧
    (vars.isEmpty ↔ writes = []) := by
  intro vars
  have hc : vars.Coherent := coherent_setAll writes
  have hn : vars.names = _ := names_setAll writes
  have hg (name : String) : vars.get? name = _ := get?_setAll writes name
  refine ⟨fun name slot => ?_, hc.nodup_names, hn, fun name text => ?_, hg, fun name => ?_, ?_, ?_⟩
  · rw [hc name slot, Option.map_eq_some_iff]
    constructor
    · rintro ⟨entry, he, rfl⟩
      obtain ⟨h, rfl⟩ := Array.getElem?_eq_some_iff.1 he
      exact ⟨h, rfl⟩
    · rintro ⟨h, rfl⟩
      exact ⟨_, Array.getElem?_eq_getElem h, rfl⟩
  · rw [← hc.get?_eq_some_iff, hg]
  · cases hl : writes.reverse.lookup name <;> simp only [require, hg, hl]
  · have hs : (writes.map Prod.fst).toFinset = vars.names.toFinset := by
      ext name
      rw [List.mem_toFinset, List.mem_toFinset, hn, List.mem_eraseDups]
    rw [hs, List.toFinset_card_of_nodup hc.nodup_names, length_names]
  · rw [← names_eq_nil_iff, hn]
    cases writes with
    | nil => exact iff_of_true rfl rfl
    | cons write writes =>
        rw [List.map_cons, List.eraseDups_cons]
        exact iff_of_false (List.cons_ne_nil _ _) (List.cons_ne_nil _ _)

end TilePuzzle.Variables
