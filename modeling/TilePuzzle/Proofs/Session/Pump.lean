import TilePuzzle.Proofs.Interpreter.Emission
import TilePuzzle.Session

namespace TilePuzzle.Session

open Interpreter (emitted)

variable {σ : Type} {s : Session σ} {raws : List String} {raw : String}

section Steps

variable [FrameChannel σ]

theorem machine_accept (s : Session σ) (raw : String) :
    (s.accept raw).machine = (s.machine.handle raw).2 := by
  rw [accept]
  rcases s.machine.handle raw with ⟨_ | frame, machine⟩ <;> rfl

theorem outcome_accept (s : Session σ) (raw : String) :
    (s.accept raw).outcome = { s.outcome with
      framesReceived := s.outcome.framesReceived + 1
      submitted := (s.machine.handle raw).1.or s.outcome.submitted } := by
  rw [accept]
  rcases s.machine.handle raw with ⟨_ | frame, machine⟩ <;> rfl

theorem channel_accept {α : Type} {f : σ → α}
    (hf : ∀ channel payload, f (FrameChannel.send channel payload).2 = f channel)
    (s : Session σ) (raw : String) : f (s.accept raw).channel = f s.channel := by
  rw [accept]
  rcases s.machine.handle raw with ⟨_ | frame, machine⟩
  · rfl
  · exact hf s.channel frame

theorem pump_of_terminated (hm : s.machine.isTerminated = true) : pump s = (.ok (), s) := by
  rw [pump, if_pos hm]

theorem pump_of_running (hm : s.machine.isTerminated = false) :
    pump s = match FrameChannel.next s.channel with
      | (.frame raw, channel) => pump ({ s with channel }.accept raw)
      | (.failed e, channel) => (.error e, { s with channel })
      | (_, channel) => (.ok (), { s with channel }) := by
  rw [pump, if_neg (Bool.eq_false_iff.1 hm)]
  split <;> rename_i h <;> rw [h]

theorem waits_of_terminated (hm : s.machine.isTerminated = true) : waits s = false := by
  rw [waits, if_pos hm]

theorem waits_of_running (hm : s.machine.isTerminated = false) :
    waits s = match FrameChannel.next s.channel with
      | (.frame raw, channel) => waits ({ s with channel }.accept raw)
      | (.idle, _) => true
      | _ => false := by
  rw [waits, if_neg (Bool.eq_false_iff.1 hm)]
  split <;> rename_i h <;> rw [h]

theorem run_of_pump {result : Except ChannelError Unit} {channel : σ}
    (h : pump { channel } = (result, s)) :
    run channel =
      (result.map fun _ => { s.outcome with terminated := s.machine.isTerminated },
        (FrameChannel.close s.channel).2) := by
  rw [run, h]

end Steps

/-- The frames a session has received. -/
structure Received (s : Session σ) (raws : List String) : Prop where
  machine : s.machine = Interpreter.new.run raws
  outcome : s.outcome =
    { framesReceived := raws.length, submitted := (emitted raws).getLast?, terminated := false }

theorem received_nil (channel : σ) : Received { channel } [] := ⟨rfl, rfl⟩

theorem Received.accept [FrameChannel σ] (h : Received s raws) (channel : σ) (raw : String) :
    Received ({ s with channel }.accept raw) (raws ++ [raw]) := by
  constructor
  · rw [machine_accept, Interpreter.run_concat, ← Interpreter.handle_snd, h.machine]
  · rw [outcome_accept, h.outcome, h.machine, Interpreter.emitted_concat, List.length_append,
      List.getLast?_append]
    cases ((Interpreter.new.run raws).handle raw).1 <;> rfl

theorem Received.submitted_of_running (h : Received s raws)
    (hm : (Interpreter.new.run raws).isTerminated = false) : s.outcome.submitted = none := by
  have he := Interpreter.emitted_run raws
  rw [h.outcome, he.eq_nil_of_running (Interpreter.isTerminated_eq_false_iff.1 hm)]
  rfl

end TilePuzzle.Session
