import TilePuzzle.Channel.Socket
import TilePuzzle.Proofs.Codec.Utf8
import TilePuzzle.Proofs.Session.Alike
import TilePuzzle.Proofs.Session.Script

namespace TilePuzzle

def Message.frame? : Message → Option String
  | .text payload => some payload
  | .binary bytes => String.fromUTF8? bytes.toByteArray
  | _ => none

/-- How a peer stops sending: it says so, the arrivals end, or there is a fault. What arrives after
that is of no concern. -/
inductive Hangup
  | closed (later : List Arrival)
  | ended
  | broken (fault : SocketFault) (later : List Arrival)

namespace Hangup

def arrivals : Hangup → List Arrival
  | closed later => .ok .close :: later
  | ended => []
  | broken fault later => .error fault :: later

def isBroken : Hangup → Bool
  | broken _ _ => true
  | _ => false

def retell : Hangup → ChannelError → ChannelError
  | broken fault _, _ => .socket fault
  | _, e => e

end Hangup

def Socket.hearing (messages : List Message) (hangup : Hangup) : Socket :=
  { incoming := messages.map .ok ++ hangup.arrivals }

def Script.hearing (messages : List Message) (hangup : Hangup) : Script :=
  { frames := messages.filterMap Message.frame?, failsRead := hangup.isBroken }

variable {message : Message} {messages : List Message} {hangup : Hangup} {raw : String}

namespace Socket

theorem route_of_frame (h : message.frame? = some raw) : message.route = .frame raw := by
  cases message with
  | text payload =>
      cases h
      rfl
  | binary bytes =>
      have hd := Utf8.fromUTF8?_eq_some_iff.1 h
      simp [Message.route, hd]
  | ping | pong | wire | close => cases h

theorem route_of_skip (h : message.frame? = none) (hc : message ≠ .close) :
    ∃ reason, message.route = .skip reason := by
  cases message with
  | text payload => cases h
  | binary bytes =>
      rw [Message.frame?, Utf8.fromUTF8?_eq, Option.map_eq_none_iff] at h
      cases hd : Utf8.decode bytes with
      | ok cs => rw [hd] at h; cases h
      | error fault => exact ⟨_, by rw [Message.route, hd]⟩
  | ping | pong | wire => exact ⟨_, rfl⟩
  | close => exact absurd rfl hc

theorem receive_messages (s : Socket) (hc : Message.close ∉ messages) (hangup : Hangup) :
    (∃ (raw : String) (rest : List Message), Message.close ∉ rest ∧
      messages.filterMap Message.frame? = raw :: rest.filterMap Message.frame? ∧
      s.receive (messages.map .ok ++ hangup.arrivals) =
        (.frame raw, { s with incoming := rest.map .ok ++ hangup.arrivals })) ∨
    messages.filterMap Message.frame? = [] ∧
      s.receive (messages.map .ok ++ hangup.arrivals) = s.receive hangup.arrivals := by
  induction messages with
  | nil => exact .inr ⟨rfl, rfl⟩
  | cons message messages ih =>
      obtain ⟨hm, hms⟩ := List.ne_and_not_mem_of_not_mem_cons hc
      cases hf : message.frame? with
      | some raw =>
          refine .inl ⟨raw, messages, hms, List.filterMap_cons_some hf, ?_⟩
          rw [List.map_cons, List.cons_append, receive, route_of_frame hf]
      | none =>
          obtain ⟨reason, hr⟩ := route_of_skip hf (Ne.symm hm)
          rw [List.filterMap_cons_none hf, List.map_cons, List.cons_append, receive, hr]
          exact ih hms

theorem receive_cases (s : Socket) (arrivals : List Arrival) : ∃ rest,
    (∃ raw, s.receive arrivals = (.frame raw, { s with incoming := rest })) ∨
    (∃ fault, s.receive arrivals = (.failed (.socket fault), { s with incoming := rest })) ∨
    s.receive arrivals = (.closed, { s with incoming := rest, closed := true }) ∨
    s.holdsOpen = true ∧ s.receive arrivals = (.idle, { s with incoming := rest }) := by
  induction arrivals with
  | nil =>
      rw [receive]
      cases ho : s.holdsOpen with
      | true => exact ⟨[], .inr (.inr (.inr ⟨rfl, if_pos rfl⟩))⟩
      | false => exact ⟨[], .inr (.inr (.inl (if_neg (by decide))))⟩
  | cons arrival rest ih =>
      cases arrival with
      | error fault => exact ⟨rest, .inr (.inl ⟨fault, rfl⟩)⟩
      | ok message =>
          rw [receive]
          cases message.route with
          | frame raw => exact ⟨rest, .inl ⟨raw, rfl⟩⟩
          | closed => exact ⟨rest, .inr (.inr (.inl rfl))⟩
          | skip reason => exact ih

/-- What reading can come to: a frame, a fault, the end, or silence. -/
theorem next_cases (s : Socket) : ∃ rest,
    (∃ raw, s.next = (.frame raw, { s with incoming := rest })) ∨
    (∃ fault, s.next = (.failed (.socket fault), { s with incoming := rest })) ∨
    s.next = (.closed, { s with incoming := rest, closed := true }) ∨
    s.holdsOpen = true ∧ s.next = (.idle, { s with incoming := rest }) := by
  rw [next]
  by_cases hc : s.closed = true
  · refine ⟨s.incoming, .inr (.inr (.inl ?_))⟩
    rw [if_pos hc, ← hc]
  · rw [if_neg hc]
    exact s.receive_cases s.incoming

theorem holdsOpen_next (s : Socket) : s.next.2.holdsOpen = s.holdsOpen := by
  obtain ⟨rest, ⟨raw, h⟩ | ⟨fault, h⟩ | h | ⟨-, h⟩⟩ := s.next_cases
  all_goals rw [h]

theorem holdsOpen_send (s : Socket) (payload : String) :
    (s.send payload).2.holdsOpen = s.holdsOpen := by
  rw [send]
  split
  · rfl
  · split <;> rfl

theorem holdsOpen_of_next {s : Socket} (h : s.next.1 = .idle) : s.holdsOpen = true := by
  obtain ⟨rest, ⟨raw, hn⟩ | ⟨fault, hn⟩ | hn | ⟨ho, -⟩⟩ := s.next_cases
  · cases (congrArg Prod.fst hn).symm.trans h
  · cases (congrArg Prod.fst hn).symm.trans h
  · cases (congrArg Prod.fst hn).symm.trans h
  · exact ho

end Socket

namespace Session

open Interpreter (new)

theorem holdsOpen_of_waits {s : Session Socket} (h : s.waits = true) :
    s.channel.holdsOpen = true := by
  induction s using pump_induction with
  | stopped s hm =>
      rw [waits_of_terminated hm] at h
      cases h
  | frame s raw channel hm hn ih =>
      rw [waits_of_frame hm hn] at h
      have hc := ih h
      rw [channel_accept (f := Socket.holdsOpen) Socket.holdsOpen_send] at hc
      rw [← Socket.holdsOpen_next s.channel]
      exact (congrArg (fun r => r.2.holdsOpen) hn).trans hc
  | last s reading channel hm hn hl =>
      rw [waits_of_last hm hn hl] at h
      exact Socket.holdsOpen_of_next ((congrArg Prod.fst hn).trans h)

inductive Tuned (hangup : Hangup) : Socket → Script → Prop
  | hearing {messages : List Message} (hc : Message.close ∉ messages) (sent : List String) :
      Tuned hangup { Socket.hearing messages hangup with sent }
        { Script.hearing messages hangup with sent }

variable {s : Socket} {t : Script}

theorem Tuned.next (h : Tuned hangup s t) :
    (∃ raw, (FrameChannel.next s).1 = .frame raw ∧ (FrameChannel.next t).1 = .frame raw ∧
      Tuned hangup (FrameChannel.next s).2 (FrameChannel.next t).2) ∨
    (∀ raw, (FrameChannel.next s).1 ≠ .frame raw) ∧
      (FrameChannel.next s).1 = (FrameChannel.next t).1.mapError hangup.retell ∧
      (FrameChannel.next s).2.sent = (FrameChannel.next t).2.sent := by
  obtain ⟨hc, sent⟩ := h
  rename_i messages
  have hs : FrameChannel.next { Socket.hearing messages hangup with sent } =
      Socket.receive { Socket.hearing messages hangup with sent }
        (messages.map .ok ++ hangup.arrivals) := rfl
  rcases Socket.receive_messages { Socket.hearing messages hangup with sent } hc hangup with
    ⟨raw, rest, hc', hf, hr⟩ | ⟨hf, hr⟩
  · rw [hs, hr, Script.next_of_cons hf]
    exact .inl ⟨raw, rfl, rfl, .hearing hc' sent⟩
  · rw [hs, hr, Script.next_of_nil hf]
    cases hangup with
    | closed | ended | broken => exact .inr ⟨nofun, rfl, rfl⟩

theorem Tuned.sent (h : Tuned hangup s t) : s.sent = t.sent := by
  cases h
  rfl

theorem Tuned.send (h : Tuned hangup s t) (payload : String) :
    (FrameChannel.send s payload).2.sent = (FrameChannel.send t payload).2.sent := by
  cases h
  rfl

theorem alike_tuned (hangup : Hangup) :
    Alike hangup.retell (Tuned hangup) (fun s t => s.sent = t.sent) where
  read h := by
    rcases h.next with ⟨raw, hs, ht, -⟩ | ⟨-, hr, -⟩
    · rw [hs, ht]
      rfl
    · exact hr
  frame h hc := by
    rcases h.next with ⟨raw, -, -, hn⟩ | ⟨hn, -⟩
    · exact hn
    · exact absurd hc (hn _)
  next h := by
    rcases h.next with ⟨raw, -, -, hn⟩ | ⟨-, -, hn⟩
    · exact hn.sent
    · exact hn
  send := Tuned.send
  close h := (Socket.sent_close _).trans h

theorem run_hearing (hc : Message.close ∉ messages) (hangup : Hangup) :
    (run (Socket.hearing messages hangup)).1 =
        (run (Script.hearing messages hangup)).1.mapError hangup.retell ∧
      (run (Socket.hearing messages hangup)).2.sent =
        (run (Script.hearing messages hangup)).2.sent :=
  (alike_tuned hangup).run (.hearing hc []) rfl

theorem run_eq_error {script : Script} {e : ChannelError} (h : (run script).1 = .error e) :
    script.failsRead = true ∧ e = .closed := by
  by_cases hk : ∃ k, StopsAfter script.frames k
  · obtain ⟨k, hk⟩ := hk
    rw [(run_of_stopsAfter hk).1] at h
    cases h
  · rw [(run_of_not_stopsAfter hk).1] at h
    split_ifs at h with hf
    cases h
    exact ⟨hf, rfl⟩

/-- A session over a socket reports and sends what one over the script of the same frames does. It
fails where that one does, which takes a peer that hangs up with a fault. -/
theorem run_hears_script (hc : Message.close ∉ messages) (hangup : Hangup) :
    (∀ outcome, (run (Socket.hearing messages hangup)).1 = .ok outcome ↔
      (run (Script.hearing messages hangup)).1 = .ok outcome) ∧
    (∀ e, (run (Socket.hearing messages hangup)).1 = .error e ↔
      ∃ fault later, hangup = .broken fault later ∧ e = .socket fault ∧
        (run (Script.hearing messages hangup)).1 = .error .closed) ∧
    (run (Socket.hearing messages hangup)).2.sent =
      (run (Script.hearing messages hangup)).2.sent := by
  obtain ⟨hr, hs⟩ := run_hearing hc hangup
  rw [hr]
  refine ⟨fun outcome => ?_, fun e => ⟨fun he => ?_, ?_⟩, hs⟩
  · cases (run (Script.hearing messages hangup)).1 with
    | ok => rfl
    | error => exact iff_of_false nofun nofun
  · cases ht : (run (Script.hearing messages hangup)).1 with
    | ok => rw [ht] at he; cases he
    | error e' =>
        obtain ⟨hf, rfl⟩ := run_eq_error ht
        rw [ht] at he
        cases hangup with
        | closed | ended => cases hf
        | broken fault later =>
            cases he
            exact ⟨fault, later, rfl, rfl, rfl⟩
  · rintro ⟨fault, later, rfl, rfl, ht⟩
    rw [ht]
    rfl

/-- Bytes that are text count as frames, other messages do not, and the fault comes too late. -/
theorem run_hears_script_binary :
    Message.close ∉ [.ping [], .binary "U1RPUkUgNSBh".toUTF8.toList, .binary [0xFF], .text "RU5E"] ∧
    (run (Socket.hearing
      [.ping [], .binary "U1RPUkUgNSBh".toUTF8.toList, .binary [0xFF], .text "RU5E"]
      (.broken .reset []))).1 =
      .ok { framesReceived := 2, submitted := some "NQ==", terminated := true } := by
  refine ⟨by simp, ((run_hears_script (by simp) _).1 _).2 ?_⟩
  decide +kernel

end Session

end TilePuzzle
