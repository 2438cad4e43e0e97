import Mathlib.Data.List.Induction
import TilePuzzle.Proofs.Interpreter.Step
import TilePuzzle.Proofs.Variables.Coherent

namespace TilePuzzle.Interpreter

variable {m : Interpreter} {raw : String}

theorem isTerminated_iff : m.isTerminated = true ↔ m.phase = .terminated := by
  rw [isTerminated, decide_eq_true_eq]

theorem isTerminated_eq_false_iff : m.isTerminated = false ↔ m.phase = .running := by
  cases h : m.phase <;> simp [isTerminated, h]

theorem execute_snd_of_error {e : FrameError} (h : (m.execute raw).1 = .error e) :
    (m.execute raw).2 = m := by
  have hs := step_execute m raw
  generalize m.execute raw = r at hs h
  cases hs with
  | malformed | refused | unsummed => rfl
  | ignored | wrote | skipped | stopped | emitted => cases h

theorem handle_snd (m : Interpreter) (raw : String) : (m.handle raw).2 = (m.execute raw).2 := by
  rw [handle]
  rcases m.execute raw with ⟨_ | _, _⟩ <;> rfl

theorem handle_fst (m : Interpreter) (raw : String) :
    (m.handle raw).1 = (m.execute raw).1.toOption.join := by
  rw [handle]
  rcases m.execute raw with ⟨_ | _, _⟩ <;> rfl

theorem handle_of_terminated (hm : m.isTerminated = true) (raw : String) :
    m.handle raw = (none, m) := by
  rw [handle, execute_of_terminated hm]

theorem run_nil (m : Interpreter) : m.run [] = m := rfl

theorem run_cons (m : Interpreter) (raw : String) (raws : List String) :
    m.run (raw :: raws) = (m.handle raw).2.run raws := rfl

theorem run_append (m : Interpreter) (xs ys : List String) :
    m.run (xs ++ ys) = (m.run xs).run ys :=
  List.foldl_append

theorem run_concat (m : Interpreter) (raws : List String) (raw : String) :
    m.run (raws ++ [raw]) = ((m.run raws).execute raw).2 := by
  rw [run_append, run_cons, run_nil, handle_snd]

theorem run_eq_foldl_execute (m : Interpreter) (raws : List String) :
    m.run raws = raws.foldl (fun m raw => (m.execute raw).2) m := by
  simp only [run, handle_snd]

theorem outputs_append (m : Interpreter) (xs ys : List String) :
    m.outputs (xs ++ ys) = m.outputs xs ++ (m.run xs).outputs ys := by
  induction xs generalizing m with
  | nil => rfl
  | cons raw xs ih => rw [List.cons_append, outputs, outputs, ih, run_cons, List.cons_append]

/-- The output at a place of a run is the output of the machine that meets the frame there. -/
theorem getElem?_outputs (m : Interpreter) (raws : List String) (i : Nat) :
    (m.outputs raws)[i]? = raws[i]?.map fun raw => ((m.run (raws.take i)).handle raw).1 := by
  induction raws generalizing m i with
  | nil => rfl
  | cons raw raws ih =>
      cases i with
      | zero => rfl
      | succ i =>
          rw [outputs, List.getElem?_cons_succ, List.getElem?_cons_succ, ih, List.take_succ_cons,
            run_cons]

theorem run_preserves {P : Interpreter → Prop}
    (hstep : ∀ m raw, P m → P (m.execute raw).2) (hm : P m) (raws : List String) :
    P (m.run raws) := by
  induction raws generalizing m with
  | nil => exact hm
  | cons raw raws ih =>
      rw [run_cons, handle_snd]
      exact ih (hstep m raw hm)

theorem run_of_terminated (hm : m.isTerminated = true) (raws : List String) :
    m.run raws = m := by
  induction raws with
  | nil => rfl
  | cons raw raws ih => rw [run_cons, handle_of_terminated hm, ih]

theorem outputs_of_terminated (hm : m.isTerminated = true) (raws : List String) :
    ∀ out ∈ m.outputs raws, out = none := by
  induction raws with
  | nil => exact List.forall_mem_nil _
  | cons raw raws ih =>
      rw [outputs, handle_of_terminated hm]
      exact List.forall_mem_cons.2 ⟨rfl, ih⟩

def Ran (m : Interpreter) (raw : String) : Prop :=
  m.phase = .running ∧ ∃ out, (m.execute raw).1 = .ok out

def OccursAt (P : Interpreter → String → Prop) (raws : List String) (i : Nat) : Prop :=
  ∃ raw, raws[i]? = some raw ∧ P (new.run (raws.take i)) raw

section Places

variable {P : Interpreter → String → Prop} {raws : List String} {i : Nat}

theorem OccursAt.lt_length (h : OccursAt P raws i) : i < raws.length := by
  obtain ⟨raw, hr, -⟩ := h
  exact (List.getElem?_eq_some_iff.1 hr).1

theorem not_occursAt_nil : ¬OccursAt P [] i :=
  fun h => absurd h.lt_length (Nat.not_lt_zero i)

theorem occursAt_concat : OccursAt P (raws ++ [raw]) i ↔
    OccursAt P raws i ∨ i = raws.length ∧ P (new.run raws) raw := by
  rcases Nat.lt_trichotomy i raws.length with hi | rfl | hi
  · have hn : ¬(i = raws.length ∧ P (new.run raws) raw) := fun h => by omega
    rw [or_iff_left hn, OccursAt, OccursAt, List.getElem?_append_left hi,
      List.take_append_of_le_length (Nat.le_of_lt hi)]
  · simp [OccursAt]
  · have hn : ¬(i = raws.length ∧ P (new.run raws) raw) := fun h => by omega
    rw [or_iff_left hn, OccursAt, OccursAt, List.getElem?_eq_none, List.getElem?_eq_none]
    · simp
    · omega
    · rw [List.length_append, List.length_singleton]
      omega

end Places

theorem coherent_execute (h : m.vars.Coherent) (raw : String) :
    (m.execute raw).2.vars.Coherent := by
  have hs := step_execute m raw
  generalize m.execute raw = r at hs
  cases hs with
  | ignored | malformed | refused | skipped | unsummed | stopped | emitted => exact h
  | wrote => exact h.set _ _

theorem coherent_run (raws : List String) : (new.run raws).vars.Coherent :=
  run_preserves (P := fun m => m.vars.Coherent) (fun _ raw h => coherent_execute h raw)
    Variables.coherent_empty raws

end TilePuzzle.Interpreter
