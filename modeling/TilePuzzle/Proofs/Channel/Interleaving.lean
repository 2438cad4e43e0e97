import TilePuzzle.Proofs.Session.Socket

namespace TilePuzzle

def Arrival.reading? : Arrival → Option Reading
  | .ok message => message.frame?.map .frame
  | .error fault => some (.failed (.socket fault))

def Arrival.readings (arrivals : List Arrival) : List Reading :=
  (arrivals.takeWhile (· ≠ .ok .close)).filterMap reading?

namespace Socket

inductive Action
  | next
  | send (payload : String)
  | close
  deriving Repr, DecidableEq

inductive Reply
  | read (reading : Reading)
  | done (result : Except ChannelError Unit)
  deriving DecidableEq

def Reply.reading? : Reply → Option Reading
  | .read (.frame raw) => some (.frame raw)
  | .read (.failed e) => some (.failed e)
  | _ => none

def perform (s : Socket) : Action → Reply × Socket
  | .next => (.read s.next.1, s.next.2)
  | .send payload => (.done (s.send payload).1, (s.send payload).2)
  | .close => (.done s.close.1, s.close.2)

def performAll (s : Socket) : List Action → List Reply × Socket
  | [] => ([], s)
  | a :: actions =>
    let (replies, t) := performAll (s.perform a).2 actions
    ((s.perform a).1 :: replies, t)

def refusal : Action → Reply
  | .next => .read .closed
  | .send _ => .done (.error .closed)
  | .close => .done (.ok ())

variable {s : Socket} {arrivals rest : List Arrival} {message : Message} {a : Action}

theorem readings_of_close (rest : List Arrival) : Arrival.readings (.ok .close :: rest) = [] := by
  rw [Arrival.readings, List.takeWhile_cons_of_neg (by simp)]
  rfl

theorem readings_of_message (h : message ≠ .close) (rest : List Arrival) :
    Arrival.readings (.ok message :: rest) =
      (message.frame?.map Reading.frame).toList ++ Arrival.readings rest := by
  rw [Arrival.readings, List.takeWhile_cons_of_pos (by simpa using h), List.filterMap_cons,
    Arrival.reading?]
  cases message.frame? <;> rfl

theorem readings_of_error (fault : SocketFault) (rest : List Arrival) :
    Arrival.readings (.error fault :: rest) =
      .failed (.socket fault) :: Arrival.readings rest := by
  rw [Arrival.readings, List.takeWhile_cons_of_pos (by simp), List.filterMap_cons]
  rfl

/-- Reading comes upon a frame or a fault and leaves what comes after it, or there is none. Then it
finds the channel closed or, if the peer keeps silent, waits in vain. -/
inductive Receives (s : Socket) (arrivals : List Arrival) : Reading × Socket → Prop
  | heard {reading : Reading} {rest : List Arrival}
      (hr : Arrival.readings arrivals = reading :: Arrival.readings rest)
      (ha : (Reply.read reading).reading? = some reading) :
      Receives s arrivals (reading, { s with incoming := rest })
  | closed {rest : List Arrival} (hr : Arrival.readings arrivals = []) :
      Receives s arrivals (.closed, { s with incoming := rest, closed := true })
  | idle (hs : s.holdsOpen = true) (hr : Arrival.readings arrivals = []) :
      Receives s arrivals (.idle, { s with incoming := [] })

theorem receives_receive (s : Socket) (arrivals : List Arrival) :
    Receives s arrivals (s.receive arrivals) := by
  induction arrivals with
  | nil =>
      rw [receive]
      split
      · exact .idle ‹_› rfl
      · exact .closed rfl
  | cons arrival rest ih =>
      cases arrival with
      | error fault => exact .heard (readings_of_error fault rest) rfl
      | ok message =>
          by_cases hc : message = .close
          · subst hc
            exact .closed (readings_of_close rest)
          have hr := readings_of_message hc rest
          cases hf : message.frame? with
          | some raw =>
              rw [hf] at hr
              rw [receive, route_of_frame hf]
              exact .heard hr rfl
          | none =>
              obtain ⟨reason, hs⟩ := route_of_skip hf hc
              rw [hf, Option.map_none, Option.toList_none, List.nil_append] at hr
              rw [receive, hs]
              generalize s.receive rest = result at ih
              cases ih with
              | heard hr' ha => exact .heard (hr.trans hr') ha
              | closed hr' => exact .closed (hr.trans hr')
              | idle hs hr' => exact .idle hs (hr.trans hr')

/-- What comes of actions that leave a socket open: what they read and what is still to be read make
up what was to be read before. -/
structure Reads (s : Socket) (actions : List Action) (replies : List Reply) (t : Socket) : Prop where
  closed : t.closed = false
  holdsOpen : t.holdsOpen = s.holdsOpen
  no_close : Action.close ∉ actions
  no_closed : Reply.read .closed ∉ replies
  no_idle : s.holdsOpen = false → Reply.read .idle ∉ replies
  readings : replies.filterMap Reply.reading? ++ Arrival.readings t.incoming =
    Arrival.readings s.incoming

inductive Shuts (s : Socket) : Action → Reply → Socket → Prop
  | found {rest : List Arrival} (hr : Arrival.readings s.incoming = []) :
      Shuts s .next (.read .closed) { s with incoming := rest, closed := true }
  | close :
      Shuts s .close (.done (.ok ())) { s with closed := true, farewells := s.farewells + 1 }

/-- What comes of actions on an open socket. After the one that shuts it, it stays as it is and
refuses whatever is asked. -/
inductive Course (s : Socket) : List Action → List Reply → Socket → Prop
  | kept {actions : List Action} {replies : List Reply} {t : Socket}
      (h : Reads s actions replies t) : Course s actions replies t
  | shut {before after : List Action} {replies : List Reply} {t u : Socket} {a : Action}
      {reply : Reply} (h : Reads s before replies t) (hs : Shuts t a reply u) :
      Course s (before ++ a :: after) (replies ++ reply :: after.map refusal) u

variable {actions actions' : List Action} {reply : Reply} {replies replies' : List Reply}
variable {t u : Socket}

theorem reads_nil (h : s.closed = false) : Reads s [] [] s where
  closed := h
  holdsOpen := rfl
  no_close := List.not_mem_nil
  no_closed := List.not_mem_nil
  no_idle _ := List.not_mem_nil
  readings := rfl

theorem Reads.trans (h : Reads s actions replies t) (h' : Reads t actions' replies' u) :
    Reads s (actions ++ actions') (replies ++ replies') u where
  closed := h'.closed
  holdsOpen := h'.holdsOpen.trans h.holdsOpen
  no_close := by simp [h.no_close, h'.no_close]
  no_closed := by simp [h.no_closed, h'.no_closed]
  no_idle hs := by simp [h.no_idle hs, h'.no_idle (h.holdsOpen.trans hs)]
  readings := by rw [List.filterMap_append, List.append_assoc, h'.readings, h.readings]

theorem Reads.course (h : Reads s actions replies t) (h' : Course t actions' replies' u) :
    Course s (actions ++ actions') (replies ++ replies') u := by
  cases h' with
  | kept hr => exact .kept (h.trans hr)
  | shut hr hs =>
      rw [← List.append_assoc, ← List.append_assoc]
      exact .shut (h.trans hr) hs

theorem reads_of_heard {reading : Reading} (h : s.closed = false)
    (hr : Arrival.readings s.incoming = reading :: Arrival.readings rest)
    (ha : (Reply.read reading).reading? = some reading) :
    Reads s [.next] [.read reading] { s with incoming := rest } where
  closed := h
  holdsOpen := rfl
  no_close := by simp
  no_closed := by cases reading <;> simp_all [Reply.reading?]
  no_idle _ := by cases reading <;> simp_all [Reply.reading?]
  readings := by rw [List.filterMap_cons_some ha, hr]; rfl

theorem reads_of_send (h : s.closed = false) (payload : String) :
    Reads s [.send payload] [.done (s.send payload).1] (s.send payload).2 := by
  obtain ⟨result, faults, sent, hs⟩ : ∃ result faults sent,
      s.send payload = (result, { s with faults, sent }) := by
    rw [send, if_neg (by simp [h])]
    split
    · exact ⟨_, _, s.sent, rfl⟩
    · exact ⟨_, _, _, rfl⟩
    · exact ⟨_, s.faults, _, rfl⟩
  rw [hs]
  exact ⟨h, rfl, by simp, by simp, by simp, rfl⟩

theorem perform_of_open (h : s.closed = false) (a : Action) :
    Reads s [a] [(s.perform a).1] (s.perform a).2 ∨ Shuts s a (s.perform a).1 (s.perform a).2 := by
  cases a with
  | next =>
      have hr := receives_receive s s.incoming
      rw [perform, next, if_neg (by simp [h])]
      generalize s.receive s.incoming = result at hr
      cases hr with
      | heard hr ha => exact .inl (reads_of_heard h hr ha)
      | closed hr => exact .inr (.found hr)
      | idle hs hr => exact .inl ⟨h, rfl, by simp, by simp, by simp [hs], hr.symm⟩
  | send payload => exact .inl (reads_of_send h payload)
  | close =>
      rw [perform, close, if_neg (by simp [h])]
      exact .inr .close

theorem Shuts.closed (h : Shuts s a reply t) : t.closed = true := by
  cases h <;> rfl

theorem perform_of_closed (h : s.closed = true) (a : Action) : s.perform a = (refusal a, s) := by
  cases a with
  | next => rw [perform, next, if_pos h, refusal]
  | send payload => rw [perform, send, if_pos h, refusal]
  | close => rw [perform, close, if_pos h, refusal]

theorem performAll_of_closed (h : s.closed = true) (actions : List Action) :
    s.performAll actions = (actions.map refusal, s) := by
  induction actions with
  | nil => rfl
  | cons a actions ih =>
      rw [performAll, perform_of_closed h, ih]
      rfl

/-- On an open socket, frames and faults are read in the order in which they arrive, none of them
is lost and none comes twice, until the channel is closed or found closed; it is found closed only
when all of them have been read. From then on it stays as it is and refuses whatever is asked. -/
theorem performAll_loses_nothing (s : Socket) (h : s.closed = false) (actions : List Action) :
    Course s actions (s.performAll actions).1 (s.performAll actions).2 := by
  induction actions generalizing s with
  | nil => exact .kept (reads_nil h)
  | cons a actions ih =>
      rcases perform_of_open h a with hr | hs
      · -- The socket is still open, with less to be read by as much as was read.
        exact hr.course (ih _ hr.closed)
      · rw [performAll, performAll_of_closed hs.closed]
        exact .shut (reads_nil h) hs

/-- A peer that sends more than frames, and something after it has closed. -/
theorem performAll_loses_nothing_mixed :
    let s : Socket :=
      { incoming := [.ok (.ping []), .ok (.text "a"), .error .reset, .ok (.binary [0xFF]),
          .ok (.text "b"), .ok .close, .ok (.text "c")]
        faults := [some .reset] }
    let actions : List Action := [.next, .send "x", .next, .next, .next, .send "y", .close, .next]
    s.closed = false ∧
      Arrival.readings s.incoming = [.frame "a", .failed (.socket .reset), .frame "b"] ∧
      Course s actions (s.performAll actions).1 (s.performAll actions).2 ∧
      (s.performAll actions).1 =
        [.read (.frame "a"), .done (.error (.socket .reset)), .read (.failed (.socket .reset)),
          .read (.frame "b"), .read .closed, .done (.error .closed), .done (.ok ()),
          .read .closed] ∧
      (s.performAll actions).2.incoming = [.ok (.text "c")] := by
  intro s actions
  exact ⟨rfl, by decide +kernel, performAll_loses_nothing s rfl actions,
    by decide +kernel, by decide +kernel⟩

end Socket

end TilePuzzle
