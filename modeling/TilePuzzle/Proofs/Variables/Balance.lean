import Mathlib.Algebra.BigOperators.Group.Finset.Piecewise
import Mathlib.Tactic.Abel
import TilePuzzle.Proofs.Variables.Ordered
import TilePuzzle.Proofs.Variables.Total

namespace TilePuzzle.Variables

variable {vars : Variables} {zs : List Int} {total : Int} {name text : String} {e : FrameError}

def integer? (vars : Variables) (name : String) : Option Int :=
  (vars.get? name).bind fun text => Decimal.int? text.toList

def Holds (vars : Variables) (value : String → Int) : Prop :=
  ∀ name text, vars.get? name = some text → Decimal.Signed text.toList (value name)

theorem sum_eq_error_iff (acc : Int) (texts : List String) :
    sum acc texts = .error e ↔ ∃ before text after, texts = before ++ text :: after ∧
      (∀ t ∈ before, Numeric t) ∧ ¬Numeric text ∧ e = .nonNumeric text := by
  induction texts generalizing acc with
  | nil => simp [sum]
  | cons text texts ih =>
      rw [sum]
      by_cases hn : Numeric text
      · obtain ⟨z, hz⟩ := hn
        rw [integer_eq_ok_iff.2 hz]
        constructor
        · intro h
          obtain ⟨before, bad, after, rfl, hb, hn, rfl⟩ := (ih _).1 h
          exact ⟨text :: before, bad, after, rfl, List.forall_mem_cons.2 ⟨⟨z, hz⟩, hb⟩, hn, rfl⟩
        · rintro ⟨_ | ⟨_, before⟩, bad, after, ht, hb, hn, rfl⟩
          · cases ht
            exact absurd ⟨z, hz⟩ hn
          · cases ht
            exact (ih _).2 ⟨before, bad, after, rfl, (List.forall_mem_cons.1 hb).2, hn, rfl⟩
      · rw [integer_of_not_signed hn]
        constructor
        · rintro ⟨⟩
          exact ⟨[], text, texts, rfl, List.forall_mem_nil _, hn, rfl⟩
        · rintro ⟨_ | ⟨_, before⟩, bad, after, ht, hb, -, rfl⟩
          · cases ht
            rfl
          · cases ht
            exact absurd (hb text List.mem_cons_self) hn

theorem sum_erase_eq (names : List String) (value : String → Int) (name : String) :
    ∑ other ∈ names.toFinset.erase name, value other =
      ∑ other ∈ names.toFinset, value other - if name ∈ names then value name else 0 := by
  split_ifs with hn
  · exact Finset.sum_erase_eq_sub (List.mem_toFinset.2 hn)
  · rw [Finset.erase_eq_of_notMem fun hm => hn (List.mem_toFinset.1 hm), sub_zero]

namespace Coherent

theorem integer?_eq (h : vars.Coherent) {entry : String × String} (he : entry ∈ vars.toList) :
    vars.integer? entry.1 = Decimal.int? entry.2.toList := by
  rw [integer?, h.get?_eq_some_iff.2 he, Option.bind_some]

theorem denotes_iff (h : vars.Coherent) :
    vars.Denotes zs ↔ vars.names.map vars.integer? = zs.map some := by
  have hm : vars.names.map vars.integer? =
      vars.toList.map fun entry => Decimal.int? entry.2.toList := by
    rw [names, List.map_map]
    exact List.map_congr_left fun entry he => h.integer?_eq he
  rw [hm, Denotes]

theorem exists_sum (h : vars.Coherent) (hz : vars.Denotes zs) :
    ∃ value : String → Int, (∀ name ∈ vars.names, vars.integer? name = some (value name)) ∧
      zs.sum = ∑ name ∈ vars.names.toFinset, value name := by
  rw [h.denotes_iff] at hz
  have hv : ∀ name ∈ vars.names, vars.integer? name = some ((vars.integer? name).getD 0) := by
    intro name hn
    obtain ⟨z, -, hz'⟩ := List.mem_map.1 (hz ▸ List.mem_map_of_mem hn)
    rw [← hz', Option.getD_some]
  refine ⟨fun name => (vars.integer? name).getD 0, hv, ?_⟩
  rw [List.sum_toFinset _ h.nodup_names]
  have hs : (vars.names.map fun name => (vars.integer? name).getD 0).map some = zs.map some := by
    rw [← hz, List.map_map]
    exact List.map_congr_left fun name hn => (hv name hn).symm
  rw [List.map_injective_iff.2 (Option.some_injective Int) hs]

theorem holds_iff (h : vars.Coherent) {value : String → Int} :
    vars.Holds value ↔ ∀ name ∈ vars.names, vars.integer? name = some (value name) := by
  simp only [h.mem_names_iff, forall_exists_index]
  refine forall₂_congr fun name text => forall_congr' fun ht => ?_
  rw [integer?, ht, Option.bind_some, Decimal.int?_eq_some_iff]

theorem total_eq_ok_iff (h : vars.Coherent) : vars.total = .ok total ↔
    ∃ value, vars.Holds value ∧ total = ∑ name ∈ vars.names.toFinset, value name := by
  simp only [Variables.total_eq_ok_iff, h.holds_iff]
  constructor
  · rintro ⟨zs, hz, rfl⟩
    exact h.exists_sum hz
  · rintro ⟨value, hv, rfl⟩
    refine ⟨vars.names.map value, h.denotes_iff.2 ?_, List.sum_toFinset _ h.nodup_names⟩
    rw [List.map_map]
    exact List.map_congr_left hv

theorem exists_total_iff (h : vars.Coherent) : (∃ total, vars.total = .ok total) ↔
    ∀ name text, vars.get? name = some text → Numeric text := by
  simp only [Variables.exists_total_iff, h.get?_eq_some_iff, Prod.forall]

theorem get?_of_toList_eq (h : vars.Coherent) {es es' : List (String × String)}
    {entry x : String × String} (hl : vars.toList = es ++ entry :: es') (hx : x ∈ es ∨ x = entry) :
    vars.get? x.1 = some x.2 := by
  refine h.get?_eq_some_iff.2 ?_
  rw [hl, List.mem_append, List.mem_cons]
  exact hx.imp_right .inl

/-- The text that is reported belongs to the first name, in the order of definition, whose text is
no integer. -/
theorem total_eq_error_iff (h : vars.Coherent) : vars.total = .error e ↔
    ∃ before name after text, vars.names = before ++ name :: after ∧
      vars.get? name = some text ∧ ¬Numeric text ∧
      (∀ other ∈ before, ∀ t, vars.get? other = some t → Numeric t) ∧ e = .nonNumeric text := by
  rw [Variables.total, sum_eq_error_iff]
  constructor
  · rintro ⟨before, bad, after, ht, hb, hn, rfl⟩
    obtain ⟨es, es', hl, rfl, he⟩ := List.map_eq_append_iff.1 ht
    obtain ⟨entry, es', rfl, rfl, rfl⟩ := List.map_eq_cons_iff.1 he
    have hm {x : String × String} (hx : x ∈ es ∨ x = entry) := h.get?_of_toList_eq hl hx
    refine ⟨es.map Prod.fst, entry.1, es'.map Prod.fst, entry.2, ?_, hm (.inr rfl), hn, ?_, rfl⟩
    · rw [names, hl, List.map_append, List.map_cons]
    · intro other ho t ht
      obtain ⟨x, hx, rfl⟩ := List.mem_map.1 ho
      rw [hm (.inl hx)] at ht
      cases ht
      exact hb _ (List.mem_map_of_mem hx)
  · rintro ⟨before, name, after, text, hnames, ht, hn, hb, rfl⟩
    obtain ⟨es, es', hl, rfl, he⟩ := List.map_eq_append_iff.1 hnames
    obtain ⟨entry, es', rfl, rfl, rfl⟩ := List.map_eq_cons_iff.1 he
    have hm {x : String × String} (hx : x ∈ es ∨ x = entry) := h.get?_of_toList_eq hl hx
    rw [hm (.inr rfl)] at ht
    cases ht
    refine ⟨es.map (·.2), entry.2, es'.map (·.2), ?_, ?_, hn, rfl⟩
    · rw [hl, List.map_append, List.map_cons]
    · intro t ht
      obtain ⟨x, hx, rfl⟩ := List.mem_map.1 ht
      exact hb x.1 (List.mem_map_of_mem hx) x.2 (hm (.inl hx))

theorem toFinset_names_set (h : vars.Coherent) (name text : String) :
    (vars.set name text).names.toFinset = insert name vars.names.toFinset := by
  ext other
  rw [List.mem_toFinset, h.mem_names_set, Finset.mem_insert, List.mem_toFinset, or_comm]

theorem holds_set (h : vars.Coherent) {value : String → Int} (hv : vars.Holds value) {z : Int}
    (hz : Decimal.Signed text.toList z) :
    (vars.set name text).Holds (Function.update value name z) := by
  intro other t ht
  rw [h.get?_set] at ht
  split_ifs at ht with ho
  · cases ht
    rwa [ho, Function.update_self]
  · rw [Function.update_of_ne ho]
    exact hv other t ht

theorem total_set (h : vars.Coherent) (ht : vars.total = .ok total) (name : String) :
    ∃ old, (vars.get? name = none → old = 0) ∧
      (∀ text, vars.get? name = some text → Decimal.Signed text.toList old) ∧
      ∀ text z, Decimal.Signed text.toList z →
        (vars.set name text).total = .ok (total - old + z) := by
  obtain ⟨value, hv, rfl⟩ := h.total_eq_ok_iff.1 ht
  refine ⟨if name ∈ vars.names then value name else 0, fun hn => ?_, fun text ht => ?_,
    fun text z hz => ?_⟩
  · refine if_neg fun hm => ?_
    obtain ⟨text, ht⟩ := h.mem_names_iff.1 hm
    rw [hn] at ht
    cases ht
  · rw [if_pos (h.mem_names_iff.2 ⟨text, ht⟩)]
    exact hv name text ht
  · refine (h.set name text).total_eq_ok_iff.2 ⟨_, h.holds_set hv hz, ?_⟩
    rw [h.toFinset_names_set, Finset.sum_update_of_mem (Finset.mem_insert_self _ _),
      Finset.sdiff_singleton_eq_erase, Finset.erase_insert_eq_erase, sum_erase_eq]
    abel

theorem total_set_of_not_numeric (h : vars.Coherent) (ht : vars.total = .ok total) (name : String)
    (hn : ¬Numeric text) : (vars.set name text).total = .error (.nonNumeric text) := by
  have hc := h.set name text
  obtain ⟨before, after, hs⟩ := List.mem_iff_append.1 ((h.mem_names_set name text).2 (.inr rfl))
  refine hc.total_eq_error_iff.2
    ⟨before, name, after, text, hs, ?_, hn, fun other ho t ht' => ?_, rfl⟩
  · rw [h.get?_set, if_pos rfl]
  · -- No name stands in two places, so that this is another name, whose text was summed before.
    have hd : (before ++ name :: after).Nodup := hs ▸ hc.nodup_names
    have hne : other ≠ name := fun heq =>
      (List.nodup_append.1 hd).2.2 other ho name List.mem_cons_self heq
    rw [h.get?_set, if_neg hne] at ht'
    exact h.exists_total_iff.1 ⟨total, ht⟩ other t ht'

end Coherent

def lastText (writes : List (String × String)) (name : String) : Option String :=
  writes.reverse.lookup name

/-- Variables have a total exactly if all their texts are integers, and it is the sum of these over
their names. Otherwise the first of their names whose text is no integer has its text reported. A
further write changes the total by what it puts in place of what the name held, or has its own text
reported. -/
theorem total_balances (writes : List (String × String)) :
    let vars : Variables := setAll empty writes
    (writes = [] → vars.total = .ok 0) ∧
    ((∃ total, vars.total = .ok total) ↔
      ∀ name text, lastText writes name = some text → Numeric text) ∧
    (∀ total, vars.total = .ok total ↔ ∃ value : String → Int,
      (∀ name text, lastText writes name = some text → Decimal.Signed text.toList (value name)) ∧
      total = ∑ name ∈ (writes.map Prod.fst).toFinset, value name) ∧
    (∀ e, vars.total = .error e ↔ ∃ before name after text,
      (writes.map Prod.fst).eraseDups = before ++ name :: after ∧
      lastText writes name = some text ∧ ¬Numeric text ∧
      (∀ other ∈ before, ∀ t, lastText writes other = some t → Numeric t) ∧
      e = .nonNumeric text) ∧
    ∀ total, vars.total = .ok total → ∀ name,
      (∃ old, (lastText writes name = none → old = 0) ∧
        (∀ text, lastText writes name = some text → Decimal.Signed text.toList old) ∧
        ∀ text z, Decimal.Signed text.toList z →
          (vars.set name text).total = .ok (total - old + z)) ∧
      ∀ text, ¬Numeric text → (vars.set name text).total = .error (.nonNumeric text) := by
  intro vars
  have hc : vars.Coherent := coherent_setAll writes
  have hg (name : String) : vars.get? name = lastText writes name := get?_setAll writes name
  have hn : vars.names = _ := names_setAll writes
  have hf : vars.names.toFinset = (writes.map Prod.fst).toFinset := by
    ext name
    rw [List.mem_toFinset, List.mem_toFinset, hn, List.mem_eraseDups]
  simp only [← hg, ← hn, ← hf]
  refine ⟨?_, hc.exists_total_iff, fun total => hc.total_eq_ok_iff,
    fun e => hc.total_eq_error_iff, fun total ht name =>
      ⟨hc.total_set ht name, fun text => hc.total_set_of_not_numeric ht name⟩⟩
  rintro rfl
  rfl

end TilePuzzle.Variables
