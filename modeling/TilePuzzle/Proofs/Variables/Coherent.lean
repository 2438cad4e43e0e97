import Mathlib.Data.List.Nodup
import TilePuzzle.Variables

namespace TilePuzzle.Variables

variable {vars : Variables} {name text other : String} {slot : Nat}

def names (vars : Variables) : List String :=
  vars.toList.map Prod.fst

/-- The index holds every name with the place of its entry, and nothing else. So no name has two
entries and no place lies outside of them. -/
def Coherent (vars : Variables) : Prop :=
  ∀ (name : String) (slot : Nat),
    vars.index[name]? = some slot ↔ vars.entries[slot]?.map Prod.fst = some name

theorem isEmpty_iff : vars.isEmpty ↔ vars.toList = [] := by
  simp [isEmpty, toList]

theorem isEmpty_eq_false_iff : vars.isEmpty = false ↔ vars.toList ≠ [] := by
  rw [← Bool.not_eq_true, isEmpty_iff]

theorem getElem?_names (vars : Variables) (i : Nat) :
    vars.names[i]? = vars.entries[i]?.map Prod.fst := by
  simp [names, toList]

theorem set_of_index (text : String) (hi : vars.index[name]? = some slot) :
    vars.set name text = { vars with entries := vars.entries.setIfInBounds slot (name, text) } := by
  rw [set, hi]

theorem set_of_fresh (text : String) (hi : vars.index[name]? = none) :
    vars.set name text =
      ⟨vars.index.insert name vars.entries.size, vars.entries.push (name, text)⟩ := by
  rw [set, hi]

theorem coherent_empty : ({} : Variables).Coherent := by
  intro name slot
  simp

namespace Coherent

theorem entry (h : vars.Coherent) (hi : vars.index[name]? = some slot) :
    ∃ text, vars.entries[slot]? = some (name, text) := by
  obtain ⟨⟨_, text⟩, he, rfl⟩ := Option.map_eq_some_iff.1 ((h name slot).1 hi)
  exact ⟨text, he⟩

theorem index_of_entry (h : vars.Coherent) (he : vars.entries[slot]? = some (name, text)) :
    vars.index[name]? = some slot :=
  (h name slot).2 (by rw [he]; rfl)

theorem nodup_names (h : vars.Coherent) : vars.names.Nodup := by
  rw [List.nodup_iff_getElem?_ne_getElem?]
  intro i j hij hj he
  obtain ⟨name, hn⟩ : ∃ name, vars.names[j]? = some name :=
    ⟨_, List.getElem?_eq_getElem hj⟩
  rw [hn, getElem?_names] at he
  rw [getElem?_names] at hn
  have hi : some i = some j := by rw [← (h name i).2 he, (h name j).2 hn]
  exact Nat.ne_of_lt hij (Option.some.inj hi)

theorem get?_eq_some_iff (h : vars.Coherent) :
    vars.get? name = some text ↔ (name, text) ∈ vars.toList := by
  rw [get?, Option.bind_eq_some_iff, toList, ← Array.mem_def, Array.mem_iff_getElem?]
  constructor
  · rintro ⟨slot, hi, ht⟩
    obtain ⟨old, he⟩ := h.entry hi
    rw [he, Option.map_some, Option.some.injEq] at ht
    exact ⟨slot, ht ▸ he⟩
  · rintro ⟨slot, he⟩
    exact ⟨slot, h.index_of_entry he, by rw [he]; rfl⟩

theorem mem_names_iff (h : vars.Coherent) :
    name ∈ vars.names ↔ ∃ text, vars.get? name = some text := by
  rw [names, List.mem_map]
  constructor
  · rintro ⟨⟨_, text⟩, hm, rfl⟩
    exact ⟨text, h.get?_eq_some_iff.2 hm⟩
  · rintro ⟨text, ht⟩
    exact ⟨(name, text), h.get?_eq_some_iff.1 ht, rfl⟩

theorem map_fst_setIfInBounds (h : vars.Coherent) (hi : vars.index[name]? = some slot)
    (text : String) (i : Nat) :
    (vars.entries.setIfInBounds slot (name, text))[i]?.map Prod.fst =
      vars.entries[i]?.map Prod.fst := by
  obtain ⟨old, he⟩ := h.entry hi
  rw [Array.getElem?_setIfInBounds]
  split_ifs with hs hb
  · subst hs
    rw [he]
    rfl
  · subst hs
    rw [Array.getElem?_eq_none (Nat.not_lt.1 hb)]
  · rfl

theorem set (h : vars.Coherent) (name text : String) : (vars.set name text).Coherent := by
  intro n i
  cases hi : vars.index[name]? with
  | some slot =>
      rw [set_of_index text hi]
      simp only [h.map_fst_setIfInBounds hi]
      exact h n i
  | none =>
      rw [set_of_fresh text hi]
      simp only [Std.TreeMap.getElem?_insert, Std.LawfulEqCmp.compare_eq_iff_eq,
        Array.getElem?_push]
      have hn : vars.entries[i]?.map Prod.fst ≠ some name := by
        intro he
        rw [(h name i).2 he] at hi
        cases hi
      have hs : vars.index[n]? ≠ some vars.entries.size := by
        intro he
        rw [h, Array.getElem?_eq_none (Nat.le_refl _)] at he
        cases he
      -- Only the new name has the new place, and only the new place has the new name.
      by_cases hni : name = n <;> by_cases his : i = vars.entries.size
      · simp [hni, his]
      · simp [← hni, his, hn, eq_comm]
      · simp [hni, his, hs]
      · simpa [hni, his] using h n i

theorem get?_set (h : vars.Coherent) (name text other : String) :
    (vars.set name text).get? other = if other = name then some text else vars.get? other := by
  cases hi : vars.index[name]? with
  | some slot =>
      obtain ⟨old, he⟩ := h.entry hi
      rw [set_of_index text hi]
      split_ifs with ho
      · have hb := (Array.getElem?_eq_some_iff.1 he).1
        simp [get?, ho, hi, hb]
      · refine Option.bind_congr fun i ho' => ?_
        have hs : slot ≠ i := by
          rintro rfl
          obtain ⟨text', he'⟩ := h.entry ho'
          rw [he] at he'
          cases he'
          exact ho rfl
        rw [Array.getElem?_setIfInBounds_ne hs]
  | none =>
      rw [set_of_fresh text hi]
      simp only [get?, Std.TreeMap.getElem?_insert, Std.LawfulEqCmp.compare_eq_iff_eq]
      split_ifs with hn ho ho
      · simp
      · exact absurd hn.symm ho
      · exact absurd ho.symm hn
      · refine Option.bind_congr fun i ho' => ?_
        obtain ⟨text', he'⟩ := h.entry ho'
        have hb := (Array.getElem?_eq_some_iff.1 he').1
        rw [Array.getElem?_push, if_neg (Nat.ne_of_lt hb)]

theorem index_isSome_iff (h : vars.Coherent) :
    (∃ slot, vars.index[name]? = some slot) ↔ name ∈ vars.names := by
  rw [List.mem_iff_getElem?]
  simp only [h name, getElem?_names]

theorem names_set (h : vars.Coherent) (name text : String) :
    (vars.set name text).names =
      if name ∈ vars.names then vars.names else vars.names ++ [name] := by
  cases hi : vars.index[name]? with
  | some slot =>
      rw [if_pos (h.index_isSome_iff.1 ⟨slot, hi⟩), set_of_index text hi]
      apply List.ext_getElem?
      intro i
      rw [getElem?_names, getElem?_names, h.map_fst_setIfInBounds hi]
  | none =>
      have hn : name ∉ vars.names := by
        intro hn
        obtain ⟨slot, hs⟩ := h.index_isSome_iff.2 hn
        rw [hs] at hi
        cases hi
      rw [if_neg hn, set_of_fresh text hi]
      simp [names, toList]

theorem mem_names_set (h : vars.Coherent) (name text : String) :
    other ∈ (vars.set name text).names ↔ other ∈ vars.names ∨ other = name := by
  rw [h.names_set]
  split_ifs with hn
  · refine (or_iff_left_of_imp ?_).symm
    rintro rfl
    exact hn
  · rw [List.mem_append, List.mem_singleton]

theorem mem_toList_set (h : vars.Coherent) (name text : String) {written : String} :
    (other, written) ∈ (vars.set name text).toList ↔
      if other = name then written = text else (other, written) ∈ vars.toList := by
  rw [← (h.set name text).get?_eq_some_iff, h.get?_set]
  split_ifs with hn
  · rw [Option.some.injEq, eq_comm]
  · exact h.get?_eq_some_iff

end Coherent

end TilePuzzle.Variables
