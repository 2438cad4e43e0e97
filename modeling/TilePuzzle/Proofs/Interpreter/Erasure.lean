import Mathlib.Data.Set.Card
import TilePuzzle.Proofs.Interpreter.Emission

namespace TilePuzzle.Interpreter

variable {a b m : Interpreter} {raws : List String} {raw : String}

/-- Two machines that differ in nothing but the number of frames they executed. -/
structure Agree (a b : Interpreter) : Prop where
  phase : a.phase = b.phase
  vars : a.vars = b.vars

/-- A frame that fails or whose operation is unknown. -/
def Idle (m : Interpreter) (raw : String) : Prop :=
  (∃ e, (m.execute raw).1 = .error e) ∨
    ∃ op operands, Instruction.ofFrame raw = .ok (.unknown op operands)

def without (raws : List String) (places : Finset Nat) : List String :=
  (raws.zipIdx.filter fun p => p.2 ∉ places).map Prod.fst

theorem Agree.execute (h : Agree a b) (raw : String) :
    (a.execute raw).1 = (b.execute raw).1 ∧ Agree (a.execute raw).2 (b.execute raw).2 := by
  obtain ⟨hp, hv⟩ := h
  have hm : a.isTerminated = b.isTerminated := by rw [isTerminated, hp, isTerminated]
  have hs := step_execute a raw
  generalize a.execute raw = r at hs
  cases hs with
  | ignored ht =>
      rw [execute_of_terminated (hm ▸ ht)]
      exact ⟨rfl, hp, hv⟩
  | malformed ht hi =>
      rw [execute_of_malformed (hm ▸ ht) hi]
      exact ⟨rfl, hp, hv⟩
  | refused ht hi he =>
      rw [execute_of_refused (hm ▸ ht) hi (hv ▸ he)]
      exact ⟨rfl, hp, hv⟩
  | @wrote _ name text ht hi hw =>
      rw [execute_of_writes (hm ▸ ht) hi (hv ▸ hw)]
      exact ⟨rfl, hp, congrArg (Variables.set · name text) hv⟩
  | skipped ht hi =>
      rw [execute_of_unknown (hm ▸ ht) hi]
      exact ⟨rfl, hp, hv⟩
  | unsummed ht hi hn he =>
      rw [execute_of_unsummed (hm ▸ ht) hi (hv ▸ hn) (hv ▸ he)]
      exact ⟨rfl, hp, hv⟩
  | stopped ht hi hn =>
      rw [execute_of_empty (hm ▸ ht) hi (hv ▸ hn)]
      exact ⟨rfl, rfl, hv⟩
  | emitted ht hi hn he =>
      rw [execute_of_total (hm ▸ ht) hi (hv ▸ hn) (hv ▸ he)]
      exact ⟨rfl, rfl, hv⟩

theorem Agree.handle (h : Agree a b) (raw : String) :
    (a.handle raw).1 = (b.handle raw).1 ∧ Agree (a.handle raw).2 (b.handle raw).2 := by
  rw [handle_fst, handle_fst, handle_snd, handle_snd, (h.execute raw).1]
  exact ⟨rfl, (h.execute raw).2⟩

theorem Idle.handle (h : Idle m raw) : (m.handle raw).1 = none ∧ Agree (m.handle raw).2 m := by
  rw [handle_fst, handle_snd]
  rcases h with ⟨e, he⟩ | ⟨op, operands, hi⟩
  · rw [execute_snd_of_error he, he]
    exact ⟨rfl, rfl, rfl⟩
  · cases hm : m.isTerminated with
    | true =>
        rw [execute_of_terminated hm]
        exact ⟨rfl, rfl, rfl⟩
    | false =>
        rw [execute_of_unknown hm hi]
        exact ⟨rfl, rfl, rfl⟩

theorem without_concat (raws : List String) (raw : String) (places : Finset Nat) :
    without (raws ++ [raw]) places =
      without raws places ++ if raws.length ∈ places then [] else [raw] := by
  rw [without, List.zipIdx_append, List.filter_append, List.map_append, without, Nat.zero_add,
    List.zipIdx_singleton]
  split_ifs with h <;> simp [h]

theorem run_without (raws : List String) (places : Finset Nat)
    (h : ∀ i ∈ places, i < raws.length → OccursAt Idle raws i) :
    emitted (without raws places) = emitted raws ∧
      Agree (new.run (without raws places)) (new.run raws) := by
  induction raws using List.reverseRecOn with
  | nil => exact ⟨rfl, rfl, rfl⟩
  | append_singleton raws raw ih =>
      obtain ⟨he, ha⟩ := ih fun i hi hl => by
        have ho := h i hi (by rw [List.length_append]; exact Nat.lt_add_right _ hl)
        exact (occursAt_concat.1 ho).resolve_right fun ho' => Nat.ne_of_lt hl ho'.1
      rw [without_concat, emitted_concat, run_concat, ← handle_snd]
      split_ifs with hp
      -- The frame is erased: it is idle, so the whole run does not move on either.
      · have ho := h _ hp (by rw [List.length_append]; exact Nat.lt_succ_self _)
        have hi : Idle (new.run raws) raw := by
          rcases occursAt_concat.1 ho with ho' | ⟨-, hi⟩
          · exact absurd ho'.lt_length (Nat.lt_irrefl _)
          · exact hi
        obtain ⟨hn, ha'⟩ := hi.handle
        rw [List.append_nil, hn, he]
        exact ⟨(List.append_nil _).symm, ha.phase.trans ha'.phase.symm, ha.vars.trans ha'.vars.symm⟩
      · obtain ⟨ho, ha'⟩ := ha.handle raw
        rw [emitted_concat, run_concat, ← handle_snd, he, ho]
        exact ⟨rfl, ha'⟩

theorem executed_execute (m : Interpreter) (raw : String) :
    m.Ran raw ∧ (m.execute raw).2.executed = m.executed + 1 ∨
      ¬m.Ran raw ∧ (m.execute raw).2.executed = m.executed := by
  have hs := step_execute m raw
  rw [Ran]
  generalize m.execute raw = r at hs
  cases hs with
  | ignored hm =>
      refine .inr ⟨fun h => ?_, rfl⟩
      rw [isTerminated_iff, h.1] at hm
      cases hm
  | malformed | refused | unsummed =>
      refine .inr ⟨?_, rfl⟩
      rintro ⟨-, out, h⟩
      cases h
  | wrote hm | skipped hm | stopped hm | emitted hm =>
      exact .inl ⟨⟨isTerminated_eq_false_iff.1 hm, _, rfl⟩, rfl⟩

theorem executed_run (raws : List String) :
    (new.run raws).executed = { i | OccursAt Ran raws i }.ncard := by
  induction raws using List.reverseRecOn with
  | nil =>
      have he : { i | OccursAt Ran [] i } = ∅ := Set.eq_empty_of_forall_notMem fun _ =>
        not_occursAt_nil
      rw [he, Set.ncard_empty]
      rfl
  | append_singleton raws raw ih =>
      rw [run_concat]
      simp only [occursAt_concat]
      rcases executed_execute (new.run raws) raw with ⟨hr, he⟩ | ⟨hr, he⟩
      · have hf : { i | OccursAt Ran raws i }.Finite :=
          (Set.finite_lt_nat raws.length).subset fun i hi => hi.lt_length
        have hn : raws.length ∉ { i | OccursAt Ran raws i } := fun h =>
          absurd h.lt_length (Nat.lt_irrefl _)
        rw [he, ih, ← Set.ncard_insert_of_notMem hn hf]
        congr 1
        ext i
        simp [hr, or_comm]
      · rw [he, ih]
        simp only [hr, and_false, or_false]

/-- A frame that fails changes nothing. Erasing any frames that fail or have unknown operations
changes neither what a run emits nor the machine after it, save for the number of frames executed,
which is the number of places at which a running machine met a frame without failing. -/
theorem run_erases_idle_frames (raws : List String) :
    (∀ raw e, ((new.run raws).execute raw).1 = .error e →
      ((new.run raws).execute raw).2 = new.run raws) ∧
    (∀ places, (∀ i ∈ places, OccursAt Idle raws i) →
      emitted (without raws places) = emitted raws ∧
      (new.run (without raws places)).phase = (new.run raws).phase ∧
      (new.run (without raws places)).vars.toList = (new.run raws).vars.toList) ∧
    (new.run raws).executed = { i | OccursAt Ran raws i }.ncard := by
  refine ⟨fun raw e => execute_snd_of_error, fun places h => ?_, executed_run raws⟩
  obtain ⟨he, hp, hv⟩ := run_without raws places fun i hi _ => h i hi
  exact ⟨he, hp, congrArg Variables.toList hv⟩

end TilePuzzle.Interpreter
