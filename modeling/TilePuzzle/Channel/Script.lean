import TilePuzzle.Channel.Basic

namespace TilePuzzle

structure Script where
  frames : List String
  failsSend : Bool := false
  failsRead : Bool := false
  holdsOpen : Bool := false
  closed : Bool := false
  sent : List String := []
  deriving Repr, DecidableEq

namespace Script

/-- Frames are there to be read even after the channel was closed. -/
def next (s : Script) : Reading × Script :=
  match s.frames with
  | raw :: frames => (.frame raw, { s with frames })
  | [] =>
    if s.failsRead then (.failed .closed, s)
    else if s.holdsOpen then (.idle, s)
    else (.closed, s)

def send (s : Script) (payload : String) : Except ChannelError Unit × Script :=
  if s.failsSend || s.closed then (.error .closed, s)
  else (.ok (), { s with sent := s.sent ++ [payload] })

def close (s : Script) : Except ChannelError Unit × Script :=
  (.ok (), { s with closed := true })

theorem length_frames_next {s : Script} {raw : String} (h : s.next.1 = .frame raw) :
    s.next.2.frames.length < s.frames.length := by
  unfold next at h ⊢
  split <;> grind

@[simp]
theorem frames_send (s : Script) (payload : String) : (s.send payload).2.frames = s.frames := by
  unfold send
  split <;> rfl

instance : FrameChannel Script where
  next := next
  send := send
  close := close
  remaining s := s.frames.length
  remaining_next := length_frames_next
  remaining_send s payload := Nat.le_of_eq (congrArg List.length (frames_send s payload))

end Script

end TilePuzzle
