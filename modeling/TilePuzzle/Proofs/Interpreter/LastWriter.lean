import TilePuzzle.Proofs.Interpreter.Run

namespace TilePuzzle

theorem Instruction.Writes.unique {texts : String → Option String} {i : Instruction}
    {name text name' text' : String} (h : i.Writes texts name text)
    (h' : i.Writes texts name' text') : name = name' ∧ text = text' := by
  cases h with
  | store => cases h'; exact ⟨rfl, rfl⟩
  | mov dest ht =>
      cases h' with
      | mov _ ht' =>
          rw [ht] at ht'
          exact ⟨rfl, Option.some.inj ht'⟩
  | add dest ha ht hb =>
      cases h' with
      | add _ ha' ht' hb' =>
          rw [ht] at ht'
          cases ht'
          rw [ha] at ha'
          rw [hb] at hb'
          cases ha'
          cases hb'
          exact ⟨rfl, rfl⟩

namespace Interpreter

variable {m : Interpreter} {raws : List String} {raw name text : String} {i : Nat}

def Wrote (name text : String) (m : Interpreter) (raw : String) : Prop :=
  m.Ran raw ∧ ∃ i, Instruction.ofFrame raw = .ok i ∧ i.Writes m.vars.get? name text

def WroteAt (raws : List String) (i : Nat) (name text : String) : Prop :=
  OccursAt (Wrote name text) raws i

def Written (raws : List String) (name : String) : Prop :=
  ∃ i text, WroteAt raws i name text

def LastText (raws : List String) (name text : String) : Prop :=
  ∃ i, WroteAt raws i name text ∧ ∀ j text', i < j → ¬WroteAt raws j name text'

/-- Some frame wrote to the first name, and up to there no frame had written to the second. -/
def WrittenBefore (raws : List String) (name name' : String) : Prop :=
  ∃ i, (∃ text, WroteAt raws i name text) ∧ ∀ j text, j ≤ i → ¬WroteAt raws j name' text

theorem vars_of_wrote (h : Wrote name text m raw) :
    (m.execute raw).2.vars = m.vars.set name text := by
  obtain ⟨⟨hp, -⟩, i, hi, hw⟩ := h
  rw [execute_of_writes (isTerminated_eq_false_iff.2 hp) hi hw]
  rfl

theorem wrote_or_kept (m : Interpreter) (raw : String) :
    (∃ name text, Wrote name text m raw) ∨
      (∀ name text, ¬Wrote name text m raw) ∧ (m.execute raw).2.vars = m.vars := by
  by_cases h : ∃ name text, Wrote name text m raw
  · exact .inl h
  · refine .inr ⟨fun name text hw => h ⟨name, text, hw⟩, ?_⟩
    have hs := step_execute m raw
    generalize hr : m.execute raw = r at hs
    cases hs with
    | ignored | malformed | refused | skipped | unsummed | stopped | emitted => rfl
    | wrote hm hi hw =>
        exact (h ⟨_, _, ⟨isTerminated_eq_false_iff.1 hm, none, by rw [hr]⟩, _, hi, hw⟩).elim

theorem Wrote.unique {name' text' : String} (h : Wrote name text m raw)
    (h' : Wrote name' text' m raw) : name = name' ∧ text = text' := by
  obtain ⟨-, i, hi, hw⟩ := h
  obtain ⟨-, i', hi', hw'⟩ := h'
  rw [hi] at hi'
  cases hi'
  exact hw.unique hw'

theorem written_concat : Written (raws ++ [raw]) name ↔
    Written raws name ∨ ∃ text, Wrote name text (new.run raws) raw := by
  constructor
  · rintro ⟨i, text, h⟩
    rcases occursAt_concat.1 h with h | ⟨-, h⟩
    · exact .inl ⟨i, text, h⟩
    · exact .inr ⟨text, h⟩
  · rintro (⟨i, text, h⟩ | ⟨text, h⟩)
    · exact ⟨i, text, occursAt_concat.2 (.inl h)⟩
    · exact ⟨_, text, occursAt_concat.2 (.inr ⟨rfl, h⟩)⟩

theorem lastText_concat_of_wrote (hw : Wrote name text (new.run raws) raw) {text' : String} :
    LastText (raws ++ [raw]) name text' ↔ text' = text := by
  constructor
  · rintro ⟨i, hi, hl⟩
    rcases occursAt_concat.1 hi with h | ⟨-, h⟩
    · exact (hl raws.length text h.lt_length (occursAt_concat.2 (.inr ⟨rfl, hw⟩))).elim
    · exact (h.unique hw).2
  · rintro rfl
    refine ⟨raws.length, occursAt_concat.2 (.inr ⟨rfl, hw⟩), ?_⟩
    intro j text' hj h
    have hl := h.lt_length
    rw [List.length_append, List.length_singleton] at hl
    omega

theorem lastText_concat_of_not_wrote (hw : ∀ text, ¬Wrote name text (new.run raws) raw) :
    LastText (raws ++ [raw]) name text ↔ LastText raws name text := by
  have he : ∀ j text, WroteAt (raws ++ [raw]) j name text ↔ WroteAt raws j name text := by
    intro j text
    rw [WroteAt, WroteAt, occursAt_concat]
    exact or_iff_left fun h => hw text h.2
  simp only [LastText, he]

theorem get?_eq_some_iff_lastText (raws : List String) (name text : String) :
    (new.run raws).vars.get? name = some text ↔ LastText raws name text := by
  induction raws using List.reverseRecOn generalizing text with
  | nil =>
      have hn : ¬LastText [] name text := fun ⟨_, h, _⟩ => not_occursAt_nil h
      exact iff_of_false nofun hn
  | append_singleton raws raw ih =>
      rw [run_concat]
      rcases wrote_or_kept (new.run raws) raw with ⟨dest, written, hw⟩ | ⟨hn, hv⟩
      · rw [vars_of_wrote hw, (coherent_run raws).get?_set]
        split_ifs with hd
        · subst hd
          rw [lastText_concat_of_wrote hw, Option.some.injEq, eq_comm]
        · rw [ih, lastText_concat_of_not_wrote]
          exact fun text h => hd (h.unique hw).1
      · rw [hv, ih, lastText_concat_of_not_wrote (hn name)]

theorem mem_names_iff_written (raws : List String) (name : String) :
    name ∈ (new.run raws).vars.names ↔ Written raws name := by
  induction raws using List.reverseRecOn with
  | nil =>
      have hn : ¬Written [] name := fun ⟨_, _, h⟩ => not_occursAt_nil h
      exact iff_of_false List.not_mem_nil hn
  | append_singleton raws raw ih =>
      rw [run_concat, written_concat, ← ih]
      rcases wrote_or_kept (new.run raws) raw with ⟨dest, written, hw⟩ | ⟨hn, hv⟩
      · rw [vars_of_wrote hw, (coherent_run raws).mem_names_set]
        refine or_congr_right ⟨?_, ?_⟩
        · rintro rfl
          exact ⟨written, hw⟩
        · rintro ⟨text, h⟩
          exact (h.unique hw).1
      · rw [hv]
        exact (or_iff_left fun ⟨text, h⟩ => hn name text h).symm

theorem get?_eq_none_iff_not_written (raws : List String) (name : String) :
    (new.run raws).vars.get? name = none ↔ ¬Written raws name := by
  rw [← mem_names_iff_written, (coherent_run raws).mem_names_iff, Option.eq_none_iff_forall_ne_some,
    not_exists]

/-- What every frame that writes gives to its text and no frame takes from a text holds of all texts
after a run. -/
theorem entries_induction {P : List String → String → String → Prop}
    (keeps : ∀ raws raw name text, P raws name text → P (raws ++ [raw]) name text)
    (writes : ∀ raws raw name text, Wrote name text (new.run raws) raw →
      (∀ name text, (name, text) ∈ (new.run raws).vars.toList → P raws name text) →
        P (raws ++ [raw]) name text) (raws : List String) :
    ∀ name text, (name, text) ∈ (new.run raws).vars.toList → P raws name text := by
  induction raws using List.reverseRecOn with
  | nil =>
      intro name text h
      cases h
  | append_singleton raws raw ih =>
      intro name text h
      rw [run_concat] at h
      rcases wrote_or_kept (new.run raws) raw with ⟨dest, written, hw⟩ | ⟨-, hv⟩
      · rw [vars_of_wrote hw, (coherent_run raws).mem_toList_set] at h
        split_ifs at h with hd
        · subst hd h
          exact writes raws raw name text hw ih
        · exact keeps raws raw name text (ih name text h)
      · rw [hv] at h
        exact keeps raws raw name text (ih name text h)

theorem WrittenBefore.concat {name' : String} (h : WrittenBefore raws name name') (raw : String) :
    WrittenBefore (raws ++ [raw]) name name' := by
  obtain ⟨i, ⟨text, hi⟩, hn⟩ := h
  refine ⟨i, ⟨text, occursAt_concat.2 (.inl hi)⟩, fun j text' hj hw => ?_⟩
  rcases occursAt_concat.1 hw with hw | ⟨rfl, -⟩
  · exact hn j text' hj hw
  · exact absurd hi.lt_length (Nat.not_lt.2 hj)

theorem writtenBefore_fresh {name' : String} (h : Written raws name) (hn : ¬Written raws name')
    (raw : String) : WrittenBefore (raws ++ [raw]) name name' := by
  obtain ⟨i, text, hi⟩ := h
  refine ⟨i, ⟨text, occursAt_concat.2 (.inl hi)⟩, fun j text' hj hw => ?_⟩
  rcases occursAt_concat.1 hw with hw | ⟨rfl, -⟩
  · exact hn ⟨j, text', hw⟩
  · exact absurd hi.lt_length (Nat.not_lt.2 hj)

theorem pairwise_names (raws : List String) :
    (new.run raws).vars.names.Pairwise (WrittenBefore raws) := by
  induction raws using List.reverseRecOn with
  | nil => exact List.Pairwise.nil
  | append_singleton raws raw ih =>
      have ih' := ih.imp fun h => WrittenBefore.concat h raw
      rw [run_concat]
      rcases wrote_or_kept (new.run raws) raw with ⟨dest, written, hw⟩ | ⟨hn, hv⟩
      · rw [vars_of_wrote hw, (coherent_run raws).names_set]
        split_ifs with hd
        · exact ih'
        · refine List.pairwise_append.2 ⟨ih', List.pairwise_singleton _ _, ?_⟩
          intro name hname name' hname'
          rw [List.mem_singleton] at hname'
          subst hname'
          exact writtenBefore_fresh ((mem_names_iff_written raws name).1 hname)
            (fun h => hd ((mem_names_iff_written raws name').2 h)) raw
      · rw [hv]
        exact ih'

theorem written_iff_lastText (raws : List String) (name : String) :
    Written raws name ↔ ∃ text, LastText raws name text := by
  rw [← mem_names_iff_written, (coherent_run raws).mem_names_iff]
  simp only [get?_eq_some_iff_lastText]

section Failures

variable {value src dest : String} (hp : (new.run raws).phase = .running)
include hp

theorem execute_mov_of_written (hi : Instruction.ofFrame raw = .ok (.mov src dest))
    (hw : Written raws src) : ((new.run raws).execute raw).1 = .ok none := by
  obtain ⟨text, ht⟩ := (written_iff_lastText raws src).1 hw
  rw [← get?_eq_some_iff_lastText] at ht
  rw [execute_of_writes (isTerminated_eq_false_iff.2 hp) hi (.mov dest ht)]

theorem execute_mov_of_not_written (hi : Instruction.ofFrame raw = .ok (.mov src dest))
    (hw : ¬Written raws src) :
    ((new.run raws).execute raw).1 = .error (.undefinedVariable src) := by
  rw [← get?_eq_none_iff_not_written] at hw
  rw [execute_of_refused (isTerminated_eq_false_iff.2 hp) hi (.source dest hw)]

theorem execute_add_of_literal (hi : Instruction.ofFrame raw = .ok (.add value src dest))
    (ha : Decimal.int? value.toList = none) :
    ((new.run raws).execute raw).1 = .error (.nonNumeric value) := by
  rw [execute_of_refused (isTerminated_eq_false_iff.2 hp) hi (.literal src dest ha)]

theorem execute_add_of_not_written {addend : Int}
    (hi : Instruction.ofFrame raw = .ok (.add value src dest))
    (ha : Decimal.int? value.toList = some addend) (hw : ¬Written raws src) :
    ((new.run raws).execute raw).1 = .error (.undefinedVariable src) := by
  rw [← get?_eq_none_iff_not_written] at hw
  rw [execute_of_refused (isTerminated_eq_false_iff.2 hp) hi (.operand dest ha hw)]

theorem execute_add_of_lastText {addend : Int}
    (hi : Instruction.ofFrame raw = .ok (.add value src dest))
    (ha : Decimal.int? value.toList = some addend) (ht : LastText raws src text) :
    ((new.run raws).execute raw).1 =
      if (Decimal.int? text.toList).isSome then .ok none else .error (.nonNumeric text) := by
  rw [← get?_eq_some_iff_lastText] at ht
  cases hb : Decimal.int? text.toList with
  | none =>
      rw [execute_of_refused (isTerminated_eq_false_iff.2 hp) hi (.text dest ha ht hb)]
      rfl
  | some base =>
      rw [execute_of_writes (isTerminated_eq_false_iff.2 hp) hi (.add dest ha ht hb)]
      rfl

end Failures

/-- After any run, the variables are what the history of the run says. A running machine fails on a
move exactly if nothing was written to its source, and on an addition exactly if its literal is no
integer, nothing was written to its source, or what was last written there is no integer, in this
order. A stopped machine ignores all frames. -/
theorem run_remembers_last_writes (raws : List String) :
    new.run raws = raws.foldl (fun m raw => (m.execute raw).2) new ∧
    (∀ name text, (new.run raws).vars.get? name = some text ↔ LastText raws name text) ∧
    (∀ name, (new.run raws).vars.get? name = none ↔ ¬Written raws name) ∧
    (∀ name text, (name, text) ∈ (new.run raws).vars.toList ↔ LastText raws name text) ∧
    (new.run raws).vars.names.Nodup ∧
    (∀ name, name ∈ (new.run raws).vars.names ↔ Written raws name) ∧
    (new.run raws).vars.names.Pairwise (WrittenBefore raws) ∧
    ((new.run raws).phase = .running → ∀ raw src dest,
      Instruction.ofFrame raw = .ok (.mov src dest) →
        (Written raws src → ((new.run raws).execute raw).1 = .ok none) ∧
        (¬Written raws src →
          ((new.run raws).execute raw).1 = .error (.undefinedVariable src))) ∧
    ((new.run raws).phase = .running → ∀ raw value src dest,
      Instruction.ofFrame raw = .ok (.add value src dest) →
        (Decimal.int? value.toList = none →
          ((new.run raws).execute raw).1 = .error (.nonNumeric value)) ∧
        ∀ addend, Decimal.int? value.toList = some addend →
          (¬Written raws src →
            ((new.run raws).execute raw).1 = .error (.undefinedVariable src)) ∧
          ∀ text, LastText raws src text → ((new.run raws).execute raw).1 =
            if (Decimal.int? text.toList).isSome then .ok none else .error (.nonNumeric text)) ∧
    ((new.run raws).phase = .terminated → ∀ raw,
      (new.run raws).execute raw = (.ok none, new.run raws)) := by
  have hc := coherent_run raws
  refine ⟨run_eq_foldl_execute new raws, get?_eq_some_iff_lastText raws,
    get?_eq_none_iff_not_written raws, ?_, hc.nodup_names, mem_names_iff_written raws,
    pairwise_names raws, ?_, ?_, fun hp => execute_of_terminated (isTerminated_iff.2 hp)⟩
  · intro name text
    rw [← hc.get?_eq_some_iff, get?_eq_some_iff_lastText]
  · intro hp raw src dest hi
    exact ⟨execute_mov_of_written hp hi, execute_mov_of_not_written hp hi⟩
  · intro hp raw value src dest hi
    refine ⟨execute_add_of_literal hp hi, fun addend ha => ⟨?_, fun text => ?_⟩⟩
    · exact execute_add_of_not_written hp hi ha
    · exact execute_add_of_lastText hp hi ha

end Interpreter

end TilePuzzle
