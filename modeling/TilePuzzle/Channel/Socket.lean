import TilePuzzle.Channel.Basic
import TilePuzzle.Utf8

namespace TilePuzzle

inductive Message
  | text (payload : String)
  | binary (bytes : List UInt8)
  | ping (bytes : List UInt8)
  | pong (bytes : List UInt8)
  | wire (bytes : List UInt8)
  | close
  deriving Repr, DecidableEq

inductive SkipReason
  | binary (length : Nat)
  | ping
  | pong
  | wire
  deriving Repr, DecidableEq

def SkipReason.message : SkipReason → String
  | .binary length => s!"binary message of {length} bytes"
  | .ping => "ping"
  | .pong => "pong"
  | .wire => "raw frame"

inductive Route
  | frame (raw : String)
  | closed
  | skip (reason : SkipReason)
  deriving Repr, DecidableEq

def Message.route : Message → Route
  | .text payload => .frame payload
  | .binary bytes =>
    match Utf8.decode bytes with
    | .ok cs => .frame (String.ofList cs)
    | .error _ => .skip (.binary bytes.length)
  | .ping _ => .skip .ping
  | .pong _ => .skip .pong
  | .wire _ => .skip .wire
  | .close => .closed

abbrev Arrival := Except SocketFault Message

structure Socket where
  incoming : List Arrival
  /-- The peer neither sends nor closes once everything has arrived. -/
  holdsOpen : Bool := false
  /-- The faults of the next texts to be sent, if any; those after them go through. -/
  faults : List (Option SocketFault) := []
  closed : Bool := false
  sent : List String := []
  farewells : Nat := 0

namespace Socket

def receive (s : Socket) : List Arrival → Reading × Socket
  | [] => if s.holdsOpen then (.idle, { s with incoming := [] })
    else (.closed, { s with incoming := [], closed := true })
  | .error fault :: rest => (.failed (.socket fault), { s with incoming := rest })
  | .ok message :: rest =>
    match message.route with
    | .frame raw => (.frame raw, { s with incoming := rest })
    | .closed => (.closed, { s with incoming := rest, closed := true })
    | .skip _ => receive s rest

def next (s : Socket) : Reading × Socket :=
  if s.closed then (.closed, s) else s.receive s.incoming

def send (s : Socket) (payload : String) : Except ChannelError Unit × Socket :=
  if s.closed then (.error .closed, s)
  else match s.faults with
    | some fault :: faults => (.error (.socket fault), { s with faults })
    | none :: faults => (.ok (), { s with faults, sent := s.sent ++ [payload] })
    | [] => (.ok (), { s with sent := s.sent ++ [payload] })

def close (s : Socket) : Except ChannelError Unit × Socket :=
  if s.closed then (.ok (), s)
  else (.ok (), { s with closed := true, farewells := s.farewells + 1 })

theorem length_incoming_receive {s : Socket} {arrivals : List Arrival} {raw : String}
    (h : (s.receive arrivals).1 = .frame raw) :
    (s.receive arrivals).2.incoming.length < arrivals.length := by
  induction arrivals with
  | nil => unfold receive at h; split at h <;> simp at h
  | cons a rest ih => cases a <;> grind [receive]

theorem length_incoming_next {s : Socket} {raw : String} (h : s.next.1 = .frame raw) :
    s.next.2.incoming.length < s.incoming.length := by
  unfold next at h ⊢
  split at h
  · simp at h
  · rename_i hc
    simpa [hc] using length_incoming_receive h

@[simp]
theorem incoming_send (s : Socket) (payload : String) :
    (s.send payload).2.incoming = s.incoming := by
  unfold send
  split
  · rfl
  · split <;> rfl

@[simp]
theorem sent_close (s : Socket) : s.close.2.sent = s.sent := by
  unfold close
  split <;> rfl

instance : FrameChannel Socket where
  next := next
  send := send
  close := close
  remaining s := s.incoming.length
  remaining_next := length_incoming_next
  remaining_send s payload := Nat.le_of_eq (congrArg List.length (incoming_send s payload))

inductive Handshake
  | accepted (s : Socket)
  | failed (fault : SocketFault)
  | silent

def checkUrl (url : String) : Except ChannelError Unit :=
  match Url.parse url with
  | .error e => .error (.malformedUrl url e)
  | .ok parsed => if parsed.isChannel then .ok () else .error (.foreignScheme url)

/-- The channel that the peer at a URL opens, if it does so before the given number of seconds has
passed. -/
def connect (peer : String → Handshake) (url : String) (timeoutSecs : UInt64) :
    Except ChannelError Socket :=
  match checkUrl url with
  | .error e => .error e
  | .ok () =>
    match peer url with
    | .accepted s => .ok s
    | .failed fault => .error (.socket fault)
    | .silent => .error (.connectTimeout url timeoutSecs)

end Socket

end TilePuzzle
