import Mathlib.Data.List.ReduceOption
import TilePuzzle.Proofs.Codec.Frame
import TilePuzzle.Proofs.Interpreter.Run
import TilePuzzle.Proofs.Variables.Total

namespace TilePuzzle.Interpreter

variable {m : Interpreter} {raw frame : String}

def totalFrame (total : Int) : String :=
  Frame.encode (String.ofList (Decimal.ofInt total))

theorem decode_totalFrame (total : Int) :
    Frame.decode (totalFrame total) = .ok (String.ofList (Decimal.ofInt total)) :=
  Frame.decode_encode _

def emitted (raws : List String) : List String :=
  (new.outputs raws).reduceOption

/-- What a machine has emitted so far. -/
inductive Emitted (m : Interpreter) : List String → Prop
  | running (hp : m.phase = .running) : Emitted m []
  | silent (hp : m.phase = .terminated) (hv : m.vars.toList = []) : Emitted m []
  | spoken {total : Int} (hp : m.phase = .terminated) (hv : m.vars.toList ≠ [])
      (ht : m.vars.total = .ok total) : Emitted m [totalFrame total]

theorem emitted_concat (raws : List String) (raw : String) :
    emitted (raws ++ [raw]) = emitted raws ++ ((new.run raws).handle raw).1.toList := by
  rw [emitted, outputs_append, List.reduceOption_append, emitted, outputs, outputs]
  cases ((new.run raws).handle raw).1 <;> rfl

namespace Emitted

variable {frames : List String}

theorem length_le_one (h : Emitted m frames) : frames.length ≤ 1 := by
  cases h <;> simp

theorem eq_nil_of_running (h : Emitted m frames) (hp : m.phase = .running) : frames = [] := by
  cases h with
  | running | silent => rfl
  | spoken hp' =>
      rw [hp] at hp'
      cases hp'

theorem eq_nil_of_empty (h : Emitted m frames) (hv : m.vars.toList = []) : frames = [] := by
  cases h with
  | running | silent => rfl
  | spoken _ hv' => exact absurd hv hv'

theorem total_of_mem (h : Emitted m frames) (hf : frame ∈ frames) :
    ∃ total, m.vars.total = .ok total ∧ frame = totalFrame total := by
  cases h with
  | running | silent => cases hf
  | spoken _ _ ht => exact ⟨_, ht, List.mem_singleton.1 hf⟩

theorem eq_singleton_iff (h : Emitted m frames) :
    m.phase = .terminated ∧ m.vars.toList ≠ [] ↔ ∃ frame, frames = [frame] := by
  cases h with
  | running hp =>
      rw [hp]
      exact iff_of_false nofun nofun
  | silent hp hv => exact iff_of_false (fun h => h.2 hv) nofun
  | spoken hp hv => exact iff_of_true ⟨hp, hv⟩ ⟨_, rfl⟩

theorem handle (h : Emitted m frames) (raw : String) :
    Emitted (m.handle raw).2 (frames ++ (m.handle raw).1.toList) := by
  rw [handle_fst, handle_snd]
  have hs := step_execute m raw
  generalize m.execute raw = r at hs
  cases hs with
  | ignored | malformed | refused | unsummed =>
      show Emitted m (frames ++ [])
      rw [List.append_nil]
      exact h
  | wrote hm | skipped hm =>
      have hp := isTerminated_eq_false_iff.1 hm
      rw [h.eq_nil_of_running hp]
      exact .running hp
  | stopped hm hi hv =>
      rw [h.eq_nil_of_running (isTerminated_eq_false_iff.1 hm)]
      exact .silent rfl (Variables.isEmpty_iff.1 hv)
  | emitted hm hi hv ht =>
      rw [h.eq_nil_of_running (isTerminated_eq_false_iff.1 hm)]
      exact .spoken rfl (Variables.isEmpty_eq_false_iff.1 hv) ht

end Emitted

theorem emitted_run (raws : List String) : Emitted (new.run raws) (emitted raws) := by
  induction raws using List.reverseRecOn with
  | nil => exact .running rfl
  | append_singleton raws raw ih =>
      rw [emitted_concat, run_concat, ← handle_snd]
      exact ih.handle raw

theorem handle_eq_some_iff : (m.handle raw).1 = some frame ↔
    Instruction.ofFrame raw = .ok .finish ∧ m.phase = .running ∧ m.vars.toList ≠ [] ∧
      ∃ total, m.vars.total = .ok total ∧ frame = totalFrame total := by
  rw [handle_fst]
  constructor
  · intro h
    have hs := step_execute m raw
    generalize m.execute raw = r at hs h
    cases hs with
    | ignored | malformed | refused | wrote | skipped | unsummed | stopped => cases h
    | @emitted total hm hi hv ht =>
        have hf : some (totalFrame total) = some frame := h
        exact ⟨hi, isTerminated_eq_false_iff.1 hm, Variables.isEmpty_eq_false_iff.1 hv, total, ht,
          (Option.some.inj hf).symm⟩
  · rintro ⟨hi, hp, hv, total, ht, rfl⟩
    rw [execute_of_total (isTerminated_eq_false_iff.2 hp) hi
      (Variables.isEmpty_eq_false_iff.2 hv) ht]
    rfl

theorem phase_of_handle_eq_some (h : (m.handle raw).1 = some frame) :
    (m.handle raw).2.phase = .terminated := by
  obtain ⟨hi, hp, hv, total, ht, rfl⟩ := handle_eq_some_iff.1 h
  rw [handle_snd, execute_of_total (isTerminated_eq_false_iff.2 hp) hi
    (Variables.isEmpty_eq_false_iff.2 hv) ht]
  rfl

theorem isSome_handle_iff : (m.handle raw).1.isSome ↔
    Instruction.ofFrame raw = .ok .finish ∧ m.phase = .running ∧ m.vars.toList ≠ [] ∧
      ∃ zs, m.vars.Denotes zs := by
  simp only [Option.isSome_iff_exists, handle_eq_some_iff, Variables.total_eq_ok_iff]
  constructor
  · rintro ⟨_, hi, hp, hv, _, ⟨zs, hz, -⟩, -⟩
    exact ⟨hi, hp, hv, zs, hz⟩
  · rintro ⟨hi, hp, hv, zs, hz⟩
    exact ⟨_, hi, hp, hv, _, ⟨zs, hz, rfl⟩, rfl⟩

theorem decode_of_handle_eq_some (h : (m.handle raw).1 = some frame) :
    ∃ zs, m.vars.Denotes zs ∧
      Frame.decode frame = .ok (String.ofList (Decimal.ofInt zs.sum)) := by
  obtain ⟨-, -, -, total, ht, rfl⟩ := handle_eq_some_iff.1 h
  obtain ⟨zs, hz, rfl⟩ := Variables.total_eq_ok_iff.1 ht
  exact ⟨zs, hz, decode_totalFrame _⟩

/-- A machine emits one frame at most. It does so for the frame that stops it while it has variables
and all of them are integers, and the emitted frame is the sum of these. Once stopped, a machine
never changes again. -/
theorem run_emits_total_once (raws : List String) :
    (emitted raws).length ≤ 1 ∧
    (∀ raw, ((new.run raws).handle raw).1.isSome ↔
      Instruction.ofFrame raw = .ok .finish ∧ (new.run raws).phase = .running ∧
        (new.run raws).vars.toList ≠ [] ∧ ∃ zs, (new.run raws).vars.Denotes zs) ∧
    (∀ raw frame, ((new.run raws).handle raw).1 = some frame →
      ((new.run raws).handle raw).2.phase = .terminated ∧
        ∃ zs, (new.run raws).vars.Denotes zs ∧
          Frame.decode frame = .ok (String.ofList (Decimal.ofInt zs.sum))) ∧
    ((new.run raws).phase = .terminated ∧ (new.run raws).vars.toList ≠ [] ↔
      ∃ frame, emitted raws = [frame]) ∧
    (∀ frame ∈ emitted raws, ∃ total, (new.run raws).vars.total = .ok total ∧
      frame = Frame.encode (String.ofList (Decimal.ofInt total))) ∧
    ((new.run raws).phase = .terminated → (new.run raws).vars.toList = [] → emitted raws = []) ∧
    ((new.run raws).phase = .running → emitted raws = []) ∧
    ((new.run raws).phase = .terminated → ∀ later, (new.run raws).run later = new.run raws ∧
      ∀ out ∈ (new.run raws).outputs later, out = none) := by
  have he := emitted_run raws
  refine ⟨he.length_le_one, fun raw => isSome_handle_iff, ?_, he.eq_singleton_iff,
    fun frame => he.total_of_mem, fun _ => he.eq_nil_of_empty, he.eq_nil_of_running, ?_⟩
  · intro raw frame h
    exact ⟨phase_of_handle_eq_some h, decode_of_handle_eq_some h⟩
  · intro hp later
    have hm := isTerminated_iff.2 hp
    exact ⟨run_of_terminated hm later, outputs_of_terminated hm later⟩

end TilePuzzle.Interpreter
