import Mathlib.Order.Nat
import TilePuzzle.Channel.Script
import TilePuzzle.Proofs.Session.Pump

namespace TilePuzzle

namespace Script

variable {s : Script} {raw : String} {raws : List String}

theorem next_of_cons (h : s.frames = raw :: raws) :
    FrameChannel.next s = (.frame raw, { s with frames := raws }) := by
  show s.next = _
  rw [next, h]

theorem next_of_nil (h : s.frames = []) :
    FrameChannel.next s = (if s.failsRead then .failed .closed
      else if s.holdsOpen then .idle else .closed, s) := by
  show s.next = _
  rw [next, h]
  split_ifs <;> rfl

@[simp]
theorem failsRead_send (s : Script) (payload : String) :
    (s.send payload).2.failsRead = s.failsRead := by
  rw [send]
  split <;> rfl

end Script

namespace Session

open Interpreter (emitted new)

variable {script : Script} {raws rest : List String} {raw : String} {k : Nat}

/-- A session over a script that has received some frames and is about to read the others. -/
structure Reached (script : Script) (raws rest : List String) (s : Session Script) : Prop
    extends Received s raws where
  frames : s.channel.frames = rest
  failsRead : s.channel.failsRead = script.failsRead

theorem Reached.pump {s : Session Script} (h : Reached script raws (raw :: rest) s)
    (hm : (new.run raws).isTerminated = false) :
    ∃ s', s.pump = s'.pump ∧ Reached script (raws ++ [raw]) rest s' := by
  refine ⟨{ s with channel := { s.channel with frames := rest } }.accept raw, ?_,
    h.toReceived.accept _ raw, ?_, ?_⟩
  · rw [pump_of_running (h.machine ▸ hm), Script.next_of_cons h.frames]
  · exact channel_accept (f := Script.frames) Script.frames_send _ raw
  · rw [channel_accept (f := Script.failsRead) Script.failsRead_send]
    exact h.failsRead

theorem pump_of_nil {s : Session Script} (hm : s.machine.isTerminated = false)
    (hf : s.channel.frames = []) :
    pump s = (if s.channel.failsRead then .error .closed else .ok (), s) := by
  rw [pump_of_running hm, Script.next_of_nil hf]
  cases s.channel.failsRead
  · cases s.channel.holdsOpen <;> rfl
  · rfl

theorem exists_reached (hf : script.frames = raws ++ rest)
    (hm : ∀ j < raws.length, (new.run (raws.take j)).isTerminated = false) :
    ∃ s, pump { channel := script } = pump s ∧ Reached script raws rest s := by
  induction raws using List.reverseRecOn generalizing rest with
  | nil => exact ⟨_, rfl, received_nil script, hf, rfl⟩
  | append_singleton raws raw ih =>
      have hl : raws.length < (raws ++ [raw]).length := by
        rw [List.length_append]
        exact Nat.lt_succ_self _
      -- One frame earlier the session had this frame still before it.
      have hf' : script.frames = raws ++ raw :: rest := by rw [hf, List.append_assoc]; rfl
      obtain ⟨s, hs, hr⟩ := ih hf' fun j hj => by
        have hj' := hm j (Nat.lt_trans hj hl)
        rwa [List.take_append_of_le_length (Nat.le_of_lt hj)] at hj'
      have hm' := hm _ hl
      rw [List.take_left] at hm'
      obtain ⟨s', hs', hr'⟩ := hr.pump hm'
      exact ⟨s', hs.trans hs', hr'⟩

def StopsAfter (raws : List String) (k : Nat) : Prop :=
  IsLeast { k | (new.run (raws.take k)).isTerminated = true } k

namespace StopsAfter

theorem terminated (h : StopsAfter raws k) : (new.run (raws.take k)).isTerminated = true := h.1

theorem running (h : StopsAfter raws k) {j : Nat} (hj : j < k) :
    (new.run (raws.take j)).isTerminated = false :=
  Bool.eq_false_iff.2 fun hm => Nat.not_le.2 hj (h.2 hm)

theorem le_length (h : StopsAfter raws k) : k ≤ raws.length := by
  refine Nat.le_of_not_lt fun hk => ?_
  have hr := h.running hk
  have ht := h.terminated
  rw [List.take_length] at hr
  rw [List.take_of_length_le (Nat.le_of_lt hk), hr] at ht
  cases ht

theorem pos (h : StopsAfter raws k) : 0 < k := by
  cases k with
  | zero => cases h.terminated
  | succ k => exact Nat.succ_pos k

theorem of_take {raws' : List String} (h : StopsAfter raws k) (ht : raws'.take k = raws.take k) :
    StopsAfter raws' k := by
  have he : ∀ j ≤ k, raws'.take j = raws.take j := by
    intro j hj
    rw [← Nat.min_eq_left hj, ← List.take_take, ht, List.take_take]
  refine ⟨?_, fun j hj => Nat.le_of_not_lt fun hk => ?_⟩
  · rw [Set.mem_ofPred_eq, ht]
    exact h.terminated
  · rw [Set.mem_ofPred_eq, he j (Nat.le_of_lt hk), h.running hk] at hj
    cases hj

theorem getLast?_emitted (h : StopsAfter raws k) :
    (new.outputs raws)[k - 1]? = some (emitted (raws.take k)).getLast? := by
  obtain ⟨j, rfl⟩ := Nat.exists_eq_add_of_lt h.pos
  rw [Nat.zero_add] at h ⊢
  have hj : j < raws.length := h.le_length
  have he := Interpreter.emitted_run (raws.take j)
  rw [Nat.add_sub_cancel, Interpreter.getElem?_outputs, List.getElem?_eq_getElem hj,
    List.take_succ_eq_append_getElem hj, Interpreter.emitted_concat,
    he.eq_nil_of_running (Interpreter.isTerminated_eq_false_iff.1 (h.running (Nat.lt_succ_self j))),
    Option.map_some]
  cases ((new.run (raws.take j)).handle raws[j]).1 <;> rfl

end StopsAfter

theorem running_of_not_stopsAfter (h : ¬∃ k, StopsAfter raws k) (k : Nat) :
    (new.run (raws.take k)).isTerminated = false :=
  Bool.eq_false_iff.2 fun ht => h ⟨_, Nat.isLeast_find ⟨k, ht⟩⟩

theorem run_of_stopsAfter (h : StopsAfter script.frames k) :
    (run script).1 = .ok
      { framesReceived := k
        submitted := (emitted (script.frames.take k)).getLast?
        terminated := true } ∧
      (run script).2.frames = script.frames.drop k := by
  have hl : (script.frames.take k).length = k := by
    rw [List.length_take, Nat.min_eq_left h.le_length]
  obtain ⟨s, hs, hr⟩ := exists_reached (List.take_append_drop k script.frames).symm fun j hj => by
    rw [hl] at hj
    rw [List.take_take, Nat.min_eq_left (Nat.le_of_lt hj)]
    exact h.running hj
  have ht : s.machine.isTerminated = true := hr.machine ▸ h.terminated
  rw [run_of_pump (hs.trans (pump_of_terminated ht)), hr.outcome, ht, hl]
  exact ⟨rfl, hr.frames⟩

theorem run_of_not_stopsAfter (hn : ¬∃ k, StopsAfter script.frames k) :
    (run script).1 =
        (if script.failsRead then .error .closed
          else .ok
            { framesReceived := script.frames.length, submitted := none, terminated := false }) ∧
      (run script).2.frames = [] := by
  obtain ⟨s, hs, hr⟩ := exists_reached (List.append_nil script.frames).symm
    fun j _ => running_of_not_stopsAfter hn j
  have hm := running_of_not_stopsAfter hn script.frames.length
  rw [List.take_length] at hm
  have hm' : s.machine.isTerminated = false := hr.machine ▸ hm
  have ho : s.outcome =
      { framesReceived := script.frames.length, submitted := none, terminated := false } := by
    rw [hr.outcome, ← hr.submitted_of_running hm, hr.outcome]
  rw [run_of_pump (hs.trans (pump_of_nil hm' hr.frames)), hr.failsRead, ho, hm']
  refine ⟨?_, hr.frames⟩
  split_ifs <;> rfl

/-- A session over a script reports what a new machine makes of its frames. If the machine stops,
then the frames that follow and the way the script ends are of no concern; if it does not, all
frames are read, and the session fails exactly if reading does. -/
theorem run_follows_script (script : Script) :
    (∀ k, StopsAfter script.frames k →
      0 < k ∧ ∃ output, (new.outputs script.frames)[k - 1]? = some output ∧
        ∀ script' : Script, script'.frames.take k = script.frames.take k →
          (run script').1 = .ok
            { framesReceived := k, submitted := output, terminated := true } ∧
          (run script').2.frames = script'.frames.drop k) ∧
    ((¬∃ k, StopsAfter script.frames k) →
      (run script).1 =
        (if script.failsRead then .error .closed
          else .ok
            { framesReceived := script.frames.length, submitted := none, terminated := false }) ∧
      (run script).2.frames = []) ∧
    ∀ e, (run script).1 = .error e →
      (¬∃ k, StopsAfter script.frames k) ∧
        FrameChannel.next { script with frames := [] } =
          (.failed e, { script with frames := [] }) := by
  refine ⟨fun k hk => ⟨hk.pos, _, hk.getLast?_emitted, fun script' ht => ?_⟩,
    run_of_not_stopsAfter, fun e he => ?_⟩
  · rw [← ht]
    exact run_of_stopsAfter (hk.of_take ht)
  · have hn : ¬∃ k, StopsAfter script.frames k := by
      rintro ⟨k, hk⟩
      rw [(run_of_stopsAfter hk).1] at he
      cases he
    rw [(run_of_not_stopsAfter hn).1] at he
    refine ⟨hn, ?_⟩
    rw [Script.next_of_nil rfl]
    split_ifs at he with hf
    cases he
    rw [if_pos hf]

end Session

end TilePuzzle
