import TilePuzzle.Proofs.Session.Alike

namespace TilePuzzle

open FrameChannel (next send close readings)

variable {σ : Type} [FrameChannel σ]

inductive Call
  | read (reading : Reading)
  | send (payload : String)
  | close
  deriving Repr, DecidableEq

structure Recorder (σ : Type) where
  channel : σ
  calls : List Call := []

namespace Recorder

instance : FrameChannel (Recorder σ) where
  next r :=
    ((next r.channel).1, ⟨(next r.channel).2, r.calls ++ [.read (next r.channel).1]⟩)
  send r payload :=
    ((send r.channel payload).1, ⟨(send r.channel payload).2, r.calls ++ [.send payload]⟩)
  close r := ((close r.channel).1, ⟨(close r.channel).2, r.calls ++ [.close]⟩)
  remaining r := FrameChannel.remaining r.channel
  remaining_next := FrameChannel.remaining_next
  remaining_send r := FrameChannel.remaining_send r.channel

end Recorder

/-- A channel on which sending and closing fail, also where they would succeed. -/
structure Refusing (σ : Type) where
  channel : σ
  fault : ChannelError

namespace Refusing

def refuse (fault : ChannelError) (result : Except ChannelError Unit) : Except ChannelError Unit :=
  result.bind fun _ => .error fault

instance : FrameChannel (Refusing σ) where
  next r := ((next r.channel).1, { r with channel := (next r.channel).2 })
  send r payload :=
    (refuse r.fault (send r.channel payload).1, { r with channel := (send r.channel payload).2 })
  close r := (refuse r.fault (close r.channel).1, { r with channel := (close r.channel).2 })
  remaining r := FrameChannel.remaining r.channel
  remaining_next := FrameChannel.remaining_next
  remaining_send r := FrameChannel.remaining_send r.channel

end Refusing

namespace Recorder

@[simp]
theorem reading_next (r : Recorder σ) : (next r).1 = (next r.channel).1 := rfl

@[simp]
theorem channel_next (r : Recorder σ) : (next r).2.channel = (next r.channel).2 := rfl

@[simp]
theorem calls_next (r : Recorder σ) : (next r).2.calls = r.calls ++ [.read (next r).1] := rfl

theorem calls_of_next {r r' : Recorder σ} {reading : Reading} (h : next r = (reading, r')) :
    r'.calls = r.calls ++ [.read reading] := by
  have hc := calls_next r
  rwa [h] at hc

@[simp]
theorem calls_send (r : Recorder σ) (payload : String) :
    (send r payload).2.calls = r.calls ++ [.send payload] := rfl

@[simp]
theorem calls_close (r : Recorder σ) : (close r).2.calls = r.calls ++ [.close] := rfl

end Recorder

theorem Refusing.readings_eq (r : Refusing σ) : readings r = readings r.channel :=
  FrameChannel.readings_map (f := Refusing.channel) (fun _ => rfl) (fun _ => rfl) r

namespace Session

open Interpreter (emitted new)

variable {raws : List String} {raw : String} {s : Session (Recorder σ)}

theorem alike_channel :
    Alike id (fun (r : Recorder σ) (c : σ) => r.channel = c) (fun r c => r.channel = c) where
  read h := by rw [Reading.mapError_id, Recorder.reading_next, h]
  frame h _ := h ▸ rfl
  next h := h ▸ rfl
  send h _ := h ▸ rfl
  close h := h ▸ rfl

theorem alike_recorder {τ : Type} [FrameChannel τ] :
    Alike id (fun (r : Recorder σ) (q : Recorder τ) =>
        r.calls = q.calls ∧ readings r.channel = readings q.channel)
      (fun r q => r.calls = q.calls) where
  read h := by simpa using FrameChannel.next_fst_of_readings h.2
  frame {r q raw} h hr := by
    obtain ⟨hc, hs⟩ := h
    have hn := FrameChannel.next_fst_of_readings hs
    rw [Recorder.reading_next] at hr
    have hr' : (FrameChannel.next q.channel).1 = .frame raw := hn ▸ hr
    rw [FrameChannel.readings_of_frame hr, FrameChannel.readings_of_frame hr'] at hs
    exact ⟨by simp [hc, hn], List.tail_eq_of_cons_eq hs⟩
  next h := by simp [h.1, FrameChannel.next_fst_of_readings h.2]
  send h payload := by simp [h.1]
  close h := by simp [h]

def transcript (readings : List Reading) (payloads : List String) : List Call :=
  readings.map .read ++ payloads.map .send

structure Heard (s : Session (Recorder σ)) (raws : List String) : Prop extends Received s raws where
  calls : s.channel.calls = transcript (raws.map .frame) (emitted raws)
  running : (new.run raws.dropLast).isTerminated = false

theorem emitted_of_running (hm : (new.run raws).isTerminated = false) : emitted raws = [] :=
  (Interpreter.emitted_run raws).eq_nil_of_running (Interpreter.isTerminated_eq_false_iff.1 hm)

omit [FrameChannel σ] in
theorem heard_nil (channel : σ) : Heard { channel := (⟨channel, []⟩ : Recorder σ) } [] :=
  ⟨received_nil _, rfl, rfl⟩

theorem Heard.accept (h : Heard s raws) (hm : s.machine.isTerminated = false)
    (hn : (next s.channel).1 = .frame raw) :
    Heard ({ s with channel := (next s.channel).2 }.accept raw) (raws ++ [raw]) := by
  have hr : (new.run raws).isTerminated = false := h.machine ▸ hm
  have hc : (next s.channel).2.calls = transcript ((raws ++ [raw]).map .frame) [] := by
    simp [h.calls, hn, transcript, emitted_of_running hr]
  refine ⟨h.toReceived.accept _ raw, ?_, ?_⟩
  · rw [channel_accept_eq, h.machine, Interpreter.emitted_concat, emitted_of_running hr]
    cases ((new.run raws).handle raw).1 with
    | none => exact hc
    | some frame => simp [hc, transcript]
  · rwa [List.dropLast_concat]

/-- The last reading of a session that was not stopped by its machine is no frame. -/
inductive Ending (raws : List String) : Option Reading → Except ChannelError Unit → Prop
  | stopped (hm : (new.run raws).isTerminated = true) : Ending raws none (.ok ())
  | last {reading : Reading} (hm : (new.run raws).isTerminated = false)
      (hr : ∀ raw, reading ≠ .frame raw) : Ending raws (some reading) reading.result

theorem Heard.pump (h : Heard s raws) :
    ∃ frames last, Received s.pump.2 frames ∧ (new.run frames.dropLast).isTerminated = false ∧
      s.pump.2.channel.calls = transcript (frames.map .frame ++ last.toList) (emitted frames) ∧
      Ending frames last s.pump.1 := by
  induction s using pump_induction generalizing raws with
  | stopped s hm =>
      rw [pump_of_terminated hm]
      refine ⟨raws, none, h.toReceived, h.running, ?_, .stopped (h.machine ▸ hm)⟩
      rw [h.calls, Option.toList_none, List.append_nil]
  | frame s raw channel hm hn ih =>
      have hr : (next s.channel).1 = .frame raw := by rw [hn]
      have ha := h.accept hm hr
      rw [hn] at ha
      rw [pump_of_frame hm hn]
      exact ih ha
  | last s reading channel hm hn hl =>
      have hr : (new.run raws).isTerminated = false := h.machine ▸ hm
      rw [pump_of_last hm hn hl]
      refine ⟨raws, some reading, ⟨h.machine, h.outcome⟩, h.running, ?_, .last hr hl⟩
      simp [Recorder.calls_of_next hn, h.calls, transcript, emitted_of_running hr]

/-- The last of the frames makes a running machine stop with variables and emit the payload. -/
def Submits (frames : List String) (payload : String) : Prop :=
  ∃ raws raw, frames = raws ++ [raw] ∧ (new.run raws).phase = .running ∧
    ((new.run raws).handle raw).1 = some payload ∧ (new.run frames).phase = .terminated ∧
    (new.run frames).vars.toList ≠ []

theorem submits_of_handle_eq_some {payload : String} (hr : (new.run raws).isTerminated = false)
    (ho : ((new.run raws).handle raw).1 = some payload) : Submits (raws ++ [raw]) payload := by
  have he : emitted (raws ++ [raw]) = [payload] := by
    rw [Interpreter.emitted_concat, emitted_of_running hr, ho]
    rfl
  obtain ⟨hp, hv⟩ := (Interpreter.emitted_run (raws ++ [raw])).eq_singleton_iff.2 ⟨payload, he⟩
  exact ⟨raws, raw, rfl, Interpreter.isTerminated_eq_false_iff.1 hr, ho, hp, hv⟩

theorem exists_payload {frames : List String} (hr : (new.run frames.dropLast).isTerminated = false) :
    ∃ payload : Option String, emitted frames = payload.toList ∧
      ∀ text, payload = some text ↔ Submits frames text := by
  induction frames using List.reverseRecOn with
  | nil =>
      refine ⟨none, rfl, fun text => iff_of_false nofun ?_⟩
      rintro ⟨raws, raw, he, -⟩
      exact List.append_ne_nil_of_right_ne_nil raws (List.cons_ne_nil raw []) he.symm
  | append_singleton raws raw =>
      rw [List.dropLast_concat] at hr
      refine ⟨((new.run raws).handle raw).1, ?_, fun text => ⟨submits_of_handle_eq_some hr, ?_⟩⟩
      · rw [Interpreter.emitted_concat, emitted_of_running hr, List.nil_append]
      · rintro ⟨raws', raw', he, -, ho, -⟩
        obtain ⟨rfl, hs⟩ := List.append_inj' he rfl
        cases hs
        exact ho

def callsOn (channel : σ) : List Call :=
  (run (⟨channel, []⟩ : Recorder σ)).2.calls

theorem run_recorder (channel : σ) (calls : List Call) :
    (run (⟨channel, calls⟩ : Recorder σ)).1 = (run channel).1 ∧
      (run (⟨channel, calls⟩ : Recorder σ)).2.channel = (run channel).2 :=
  alike_channel.run_same rfl rfl

theorem idle_mem_pump {s : Session (Recorder σ)} :
    .read .idle ∈ s.pump.2.channel.calls ↔ .read .idle ∈ s.channel.calls ∨ s.waits = true := by
  induction s using pump_induction with
  | stopped s hm => simp [pump_of_terminated hm, waits_of_terminated hm]
  | frame s raw channel hm hn ih =>
      rw [pump_of_frame hm hn, waits_of_frame hm hn, ih, channel_accept_eq]
      cases (s.machine.handle raw).1 <;> simp [Recorder.calls_of_next hn]
  | last s reading channel hm hn hl =>
      rw [pump_of_last hm hn hl, waits_of_last hm hn hl, Recorder.calls_of_next hn]
      simp [eq_comm]

theorem waits_iff (channel : σ) :
    waits { channel } = true ↔ .read .idle ∈ callsOn channel := by
  have hw : waits { channel := (⟨channel, []⟩ : Recorder σ) } = waits { channel } :=
    alike_channel.waits ⟨rfl, rfl, fun _ => rfl, rfl⟩
  rw [callsOn, run_eq, Recorder.calls_close, List.mem_append, idle_mem_pump, hw]
  simp

theorem run_of_readings {τ : Type} [FrameChannel τ] {c : σ} {d : τ}
    (h : readings c = readings d) : (run c).1 = (run d).1 ∧ callsOn c = callsOn d := by
  obtain ⟨ho, hc⟩ := alike_recorder.run_same (c := (⟨c, []⟩ : Recorder σ))
    (d := (⟨d, []⟩ : Recorder τ)) ⟨rfl, h⟩ rfl
  rw [(run_recorder c []).1, (run_recorder d []).1] at ho
  exact ⟨ho, hc⟩

theorem exists_ending (channel : σ) :
    ∃ frames last result, (new.run frames.dropLast).isTerminated = false ∧
      Ending frames last result ∧
      callsOn channel =
        transcript (frames.map .frame ++ last.toList) (emitted frames) ++ [.close] ∧
      (run channel).1 = result.map fun _ =>
        { framesReceived := frames.length, submitted := (emitted frames).getLast?
          terminated := (new.run frames).isTerminated } := by
  obtain ⟨frames, last, hd, hr, hc, he⟩ := (heard_nil channel).pump
  refine ⟨frames, last, _, hr, he, ?_, ?_⟩
  · rw [callsOn, run_eq, Recorder.calls_close, hc]
  · rw [← (run_recorder channel []).1, run_eq, hd.outcome, hd.machine]

theorem Ending.eq_failed {last : Option Reading} {e : ChannelError}
    (h : Ending raws last (.error e)) : last = some (.failed e) := by
  generalize hr : Except.error e = result at h
  cases h with
  | stopped => cases hr
  | @last reading hm hl =>
      cases reading with
      | frame | closed | idle => cases hr
      | failed => cases hr; rfl

theorem Ending.ne_frame {last : Option Reading} {result : Except ChannelError Unit}
    (h : Ending raws last result) : ∀ raw, last ≠ some (.frame raw) := by
  cases h with
  | stopped => exact nofun
  | last hm hl => exact fun raw he => hl raw (Option.some.inj he)

theorem Ending.emitted_eq_nil {last : Option Reading} {result : Except ChannelError Unit}
    (h : Ending raws last result) (hl : last ≠ none) : emitted raws = [] := by
  cases h with
  | stopped => exact absurd rfl hl
  | last hm => exact emitted_of_running hm

/-- The calls of a session are readings, then at most one sending, then one closing. A session sends
what its machine emits in the step that stops it, and reads nothing afterwards; one that fails has
sent nothing. Its outcome and its calls stay the same if sending and closing fail. -/
theorem run_keeps_discipline (channel : σ) :
    (∃ (frames : List String) (last : Option Reading) (payload : Option String),
      callsOn channel = (frames.map Reading.frame ++ last.toList).map Call.read ++
        payload.toList.map Call.send ++ [Call.close] ∧
      (∀ raw, last ≠ some (.frame raw)) ∧
      (payload ≠ none → last = none) ∧
      (∀ text, payload = some text ↔ Submits frames text) ∧
      (∀ e, (run channel).1 = .error e → last = some (.failed e) ∧ payload = none) ∧
      ∀ outcome, (run channel).1 = .ok outcome → outcome =
        { framesReceived := frames.length, submitted := payload
          terminated := (new.run frames).isTerminated }) ∧
    (∀ calls, (run (⟨channel, calls⟩ : Recorder σ)).1 = (run channel).1 ∧
      (run (⟨channel, calls⟩ : Recorder σ)).2.channel = (run channel).2) ∧
    (∀ fault, (run (⟨channel, fault⟩ : Refusing σ)).1 = (run channel).1 ∧
      callsOn (⟨channel, fault⟩ : Refusing σ) = callsOn channel) := by
  refine ⟨?_, run_recorder channel, fun fault => run_of_readings (Refusing.readings_eq _)⟩
  obtain ⟨frames, last, result, hr, he, hc, ho⟩ := exists_ending channel
  obtain ⟨payload, hp, hs⟩ := exists_payload hr
  have hn (hl : last ≠ none) : payload = none := by
    rw [← Option.toList_eq_nil_iff, ← hp]
    exact he.emitted_eq_nil hl
  refine ⟨frames, last, payload, ?_, he.ne_frame, ?_, hs, ?_, ?_⟩
  · rw [hc, hp]
    rfl
  · intro hp'
    by_contra hl
    exact hp' (hn hl)
  · intro e h
    rw [ho] at h
    cases result with
    | ok => cases h
    | error =>
        cases h
        have hl := he.eq_failed
        exact ⟨hl, hn (by rw [hl]; exact Option.some_ne_none _)⟩
  · intro outcome h
    rw [ho] at h
    cases result with
    | error => cases h
    | ok =>
        cases h
        rw [hp]
        cases payload <;> rfl

end Session

end TilePuzzle
