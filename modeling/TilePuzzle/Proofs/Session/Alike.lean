import TilePuzzle.Proofs.Session.Pump

namespace TilePuzzle

open FrameChannel

variable {σ τ : Type} [FrameChannel σ] [FrameChannel τ]

def Reading.result : Reading → Except ChannelError Unit
  | .failed e => .error e
  | _ => .ok ()

def Reading.mapError (f : ChannelError → ChannelError) : Reading → Reading
  | .failed e => .failed (f e)
  | reading => reading

section MapError

variable {f : ChannelError → ChannelError} {raw : String}

@[simp]
theorem Reading.mapError_id (reading : Reading) : reading.mapError id = reading := by
  cases reading <;> rfl

theorem Reading.mapError_eq_frame_iff {reading : Reading} :
    reading.mapError f = .frame raw ↔ reading = .frame raw := by
  cases reading <;> simp [mapError]

theorem Reading.mapError_eq_idle_iff {reading : Reading} :
    reading.mapError f = .idle ↔ reading = .idle := by
  cases reading <;> simp [mapError]

theorem Reading.result_mapError (reading : Reading) :
    (reading.mapError f).result = reading.result.mapError f := by
  cases reading <;> rfl

end MapError

def FrameChannel.readings (channel : σ) : List Reading :=
  match _h : next channel with
  | (.frame raw, channel) => .frame raw :: readings channel
  | (reading, _) => [reading]
termination_by remaining channel
decreasing_by
  have := remaining_next (congrArg Prod.fst _h)
  rwa [_h] at this

theorem FrameChannel.readings_of_frame {channel : σ} {raw : String}
    (h : (next channel).1 = .frame raw) :
    readings channel = .frame raw :: readings (next channel).2 := by
  rw [readings]
  split <;> simp_all

theorem FrameChannel.readings_of_last {channel : σ} (h : ∀ raw, (next channel).1 ≠ .frame raw) :
    readings channel = [(next channel).1] := by
  rw [readings]
  split <;> simp_all

theorem FrameChannel.next_fst_of_readings {c : σ} {d : τ} (h : readings c = readings d) :
    (next c).1 = (next d).1 := by
  have head (ρ : Type) [FrameChannel ρ] (e : ρ) : (readings e).head? = some (next e).1 := by
    cases he : (next e).1 with
    | frame raw => rw [readings_of_frame he, List.head?_cons]
    | closed | failed | idle =>
        rw [readings_of_last (by rw [he]; exact nofun), List.head?_cons, he]
  have hc := head σ c
  rw [h, head τ d] at hc
  exact (Option.some.inj hc).symm

theorem FrameChannel.readings_map {f : τ → σ} (h : ∀ c, (next c).1 = (next (f c)).1)
    (hf : ∀ c, f (next c).2 = (next (f c)).2) (c : τ) : readings c = readings (f c) := by
  induction c using readings.induct with
  | case1 c raw channel hn ih =>
      have hr : (next c).1 = .frame raw := by rw [hn]
      have hr' : (next (f c)).1 = .frame raw := (h c).symm.trans hr
      rw [readings_of_frame hr, readings_of_frame hr', ← hf, hn, ih]
  | case2 c reading channel hl hn =>
      have hr : ∀ raw, (next c).1 ≠ .frame raw := by
        intro raw
        rw [hn]
        exact hl raw
      have hr' : ∀ raw, (next (f c)).1 ≠ .frame raw := by
        intro raw
        rw [← h]
        exact hr raw
      rw [readings_of_last hr, readings_of_last hr', h]

namespace Session

section Cases

variable {s : Session σ} {channel : σ} {raw : String} {reading : Reading}

theorem channel_accept_eq (s : Session σ) (raw : String) :
    (s.accept raw).channel = match (s.machine.handle raw).1 with
      | none => s.channel
      | some frame => (send s.channel frame).2 := by
  rw [accept]
  rcases s.machine.handle raw with ⟨_ | frame, machine⟩ <;> rfl

theorem pump_of_frame (hm : s.machine.isTerminated = false)
    (hn : next s.channel = (.frame raw, channel)) :
    pump s = pump ({ s with channel }.accept raw) := by
  rw [pump_of_running hm, hn]

theorem pump_of_last (hm : s.machine.isTerminated = false)
    (hn : next s.channel = (reading, channel)) (hr : ∀ raw, reading ≠ .frame raw) :
    pump s = (reading.result, { s with channel }) := by
  rw [pump_of_running hm, hn]
  cases reading with
  | frame raw => exact absurd rfl (hr raw)
  | closed | failed | idle => rfl

theorem waits_of_frame (hm : s.machine.isTerminated = false)
    (hn : next s.channel = (.frame raw, channel)) :
    waits s = waits ({ s with channel }.accept raw) := by
  rw [waits_of_running hm, hn]

theorem waits_of_last (hm : s.machine.isTerminated = false)
    (hn : next s.channel = (reading, channel)) (hr : ∀ raw, reading ≠ .frame raw) :
    waits s = true ↔ reading = .idle := by
  rw [waits_of_running hm, hn]
  cases reading with
  | frame raw => exact absurd rfl (hr raw)
  | closed | failed | idle => simp

theorem run_eq (channel : σ) :
    run channel =
      ((pump { channel }).1.map fun _ =>
        { (pump { channel }).2.outcome with
          terminated := (pump { channel }).2.machine.isTerminated },
        (close (pump { channel }).2.channel).2) := rfl

/-- A session either has stopped, or it receives a frame and goes on, or it has its last reading. -/
theorem pump_induction {motive : Session σ → Prop}
    (stopped : ∀ s, s.machine.isTerminated = true → motive s)
    (frame : ∀ s raw channel, s.machine.isTerminated = false →
      next s.channel = (.frame raw, channel) → motive ({ s with channel }.accept raw) → motive s)
    (last : ∀ s reading channel, s.machine.isTerminated = false →
      next s.channel = (reading, channel) → (∀ raw, reading ≠ .frame raw) → motive s)
    (s : Session σ) : motive s := by
  induction s using pump.induct with
  | case1 s hm => exact stopped s hm
  | case2 s hm raw channel hn ih => exact frame s raw channel (Bool.eq_false_iff.2 hm) hn ih
  | case3 s hm channel hn | case4 s hm channel hn | case5 s hm e channel hn =>
      exact last s _ channel (Bool.eq_false_iff.2 hm) hn nofun

end Cases

/-- Channels in relation `R` have the same reading next, failures told in the terms of the first.
They are in relation `S` once nothing is read from them any more. -/
structure Alike (f : ChannelError → ChannelError) (R S : σ → τ → Prop) : Prop where
  read {c d} (h : R c d) : (next c).1 = (next d).1.mapError f
  frame {c d raw} (h : R c d) (hc : (next c).1 = .frame raw) : R (next c).2 (next d).2
  next {c d} (h : R c d) : S (next c).2 (next d).2
  send {c d} (h : R c d) (payload : String) : S (send c payload).2 (send d payload).2
  close {c d} (h : S c d) : S (close c).2 (close d).2

/-- Sessions that report the same. Those that go on have channels to be read alike. -/
structure Matches (R S : σ → τ → Prop) (s : Session σ) (t : Session τ) : Prop where
  machine : s.machine = t.machine
  outcome : s.outcome = t.outcome
  running : s.machine.isTerminated = false → R s.channel t.channel
  channel : S s.channel t.channel

variable {f : ChannelError → ChannelError} {R S : σ → τ → Prop}
variable {s : Session σ} {t : Session τ} {channel : σ} {raw : String} {reading : Reading}

theorem Alike.accept (h : Alike f R S) (hs : Matches R S s t)
    (hr : (FrameChannel.next s.channel).1 = .frame raw) (hm : s.machine.isTerminated = false) :
    Matches R S ({ s with channel := (FrameChannel.next s.channel).2 }.accept raw)
      ({ t with channel := (FrameChannel.next t.channel).2 }.accept raw) := by
  have hR := h.frame (hs.running hm) hr
  constructor
  · rw [machine_accept, machine_accept, hs.machine]
  · rw [outcome_accept, outcome_accept, hs.outcome, hs.machine]
  · intro hr'
    rw [machine_accept] at hr'
    rw [channel_accept_eq, channel_accept_eq, ← hs.machine]
    cases hh : (s.machine.handle raw).1 with
    | none => exact hR
    -- A session that sends has stopped.
    | some frame =>
        rw [Interpreter.isTerminated_iff.2 (Interpreter.phase_of_handle_eq_some hh)] at hr'
        cases hr'
  · rw [channel_accept_eq, channel_accept_eq, ← hs.machine]
    cases (s.machine.handle raw).1 with
    | none => exact h.next (hs.running hm)
    | some frame => exact h.send hR frame

theorem Alike.next_of_frame (h : Alike f R S) (hs : Matches R S s t)
    (hm : s.machine.isTerminated = false) (hn : FrameChannel.next s.channel = (.frame raw, channel)) :
    FrameChannel.next t.channel = (.frame raw, (FrameChannel.next t.channel).2) ∧
      Matches R S ({ s with channel }.accept raw)
        ({ t with channel := (FrameChannel.next t.channel).2 }.accept raw) := by
  have hr : (FrameChannel.next s.channel).1 = .frame raw := by rw [hn]
  have ha := h.accept hs hr hm
  rw [hn] at ha
  refine ⟨Prod.ext ?_ rfl, ha⟩
  rw [← Reading.mapError_eq_frame_iff (f := f), ← h.read (hs.running hm), hr]

theorem Alike.next_of_last (h : Alike f R S) (hs : Matches R S s t)
    (hm : s.machine.isTerminated = false) (hn : FrameChannel.next s.channel = (reading, channel))
    (hl : ∀ raw, reading ≠ .frame raw) :
    reading = (FrameChannel.next t.channel).1.mapError f ∧
      ∀ raw, (FrameChannel.next t.channel).1 ≠ .frame raw := by
  have hr : reading = (FrameChannel.next t.channel).1.mapError f := by
    rw [← h.read (hs.running hm), hn]
  exact ⟨hr, fun raw ht => hl raw (hr.trans (Reading.mapError_eq_frame_iff.2 ht))⟩

theorem Alike.pump (h : Alike f R S) (hs : Matches R S s t) :
    s.pump.1 = t.pump.1.mapError f ∧ s.pump.2.machine = t.pump.2.machine ∧
      s.pump.2.outcome = t.pump.2.outcome ∧ S s.pump.2.channel t.pump.2.channel := by
  induction s using pump_induction generalizing t with
  | stopped s hm =>
      rw [pump_of_terminated hm, pump_of_terminated (hs.machine ▸ hm)]
      exact ⟨rfl, hs.machine, hs.outcome, hs.channel⟩
  | frame s raw channel hm hn ih =>
      obtain ⟨ht, ha⟩ := h.next_of_frame hs hm hn
      rw [pump_of_frame hm hn, pump_of_frame (hs.machine ▸ hm) ht]
      exact ih ha
  | last s reading channel hm hn hl =>
      obtain ⟨hr, ht⟩ := h.next_of_last hs hm hn hl
      have hS := h.next (hs.running hm)
      rw [hn] at hS
      rw [pump_of_last hm hn hl, pump_of_last (hs.machine ▸ hm) rfl ht, hr, Reading.result_mapError]
      exact ⟨rfl, hs.machine, hs.outcome, hS⟩

theorem Alike.waits (h : Alike f R S) (hs : Matches R S s t) : s.waits = t.waits := by
  induction s using pump_induction generalizing t with
  | stopped s hm => rw [waits_of_terminated hm, waits_of_terminated (hs.machine ▸ hm)]
  | frame s raw channel hm hn ih =>
      obtain ⟨ht, ha⟩ := h.next_of_frame hs hm hn
      rw [waits_of_frame hm hn, waits_of_frame (hs.machine ▸ hm) ht]
      exact ih ha
  | last s reading channel hm hn hl =>
      obtain ⟨hr, ht⟩ := h.next_of_last hs hm hn hl
      rw [Bool.eq_iff_iff, waits_of_last hm hn hl, waits_of_last (hs.machine ▸ hm) rfl ht, hr]
      exact Reading.mapError_eq_idle_iff

theorem Alike.run (h : Alike f R S) {c : σ} {d : τ} (hR : R c d) (hS : S c d) :
    (run c).1 = (run d).1.mapError f ∧ S (run c).2 (run d).2 := by
  have hs : Matches R S { channel := c } { channel := d } := ⟨rfl, rfl, fun _ => hR, hS⟩
  obtain ⟨hr, hm, ho, hc⟩ := h.pump hs
  rw [run_eq c, run_eq d, hr, hm, ho]
  refine ⟨?_, h.close hc⟩
  cases (Session.pump { channel := d }).1 <;> rfl

theorem Alike.run_same (h : Alike id R S) {c : σ} {d : τ} (hR : R c d) (hS : S c d) :
    (Session.run c).1 = (Session.run d).1 ∧ S (Session.run c).2 (Session.run d).2 := by
  obtain ⟨hr, hc⟩ := h.run hR hS
  refine ⟨?_, hc⟩
  rw [hr]
  cases (Session.run d).1 <;> rfl

end Session

end TilePuzzle
