import TilePuzzle.Channel.Basic
import TilePuzzle.Interpreter

namespace TilePuzzle

structure Session.Outcome where
  framesReceived : Nat := 0
  submitted : Option String := none
  terminated : Bool := false
  deriving Repr, DecidableEq

structure Session (σ : Type) where
  machine : Interpreter := .new
  outcome : Session.Outcome := {}
  channel : σ

namespace Session

def Outcome.resultValue (o : Outcome) : Option String :=
  o.submitted.bind fun frame => (Frame.decode frame).toOption

variable {σ : Type} [FrameChannel σ]

/-- Counts a frame and hands it to the machine. What the machine emits is sent; whether that
succeeds makes no difference. -/
def accept (s : Session σ) (raw : String) : Session σ :=
  let framesReceived := s.outcome.framesReceived + 1
  match s.machine.handle raw with
  | (none, machine) => { s with machine, outcome := { s.outcome with framesReceived } }
  | (some frame, machine) =>
    { machine
      outcome := { s.outcome with framesReceived, submitted := some frame }
      channel := (FrameChannel.send s.channel frame).2 }

theorem remaining_accept (s : Session σ) (raw : String) :
    FrameChannel.remaining (s.accept raw).channel ≤ FrameChannel.remaining s.channel := by
  unfold accept
  split
  · exact Nat.le_refl _
  · exact FrameChannel.remaining_send _ _

/-- Reads frames until the machine stops or no frame comes. Only a failure to read is a failure. -/
def pump (s : Session σ) : Except ChannelError Unit × Session σ :=
  if s.machine.isTerminated then (.ok (), s)
  else match _h : FrameChannel.next s.channel with
    | (.frame raw, channel) => pump ({ s with channel }.accept raw)
    | (.closed, channel) => (.ok (), { s with channel })
    | (.idle, channel) => (.ok (), { s with channel })
    | (.failed e, channel) => (.error e, { s with channel })
termination_by FrameChannel.remaining s.channel
decreasing_by
  have := FrameChannel.remaining_next (congrArg Prod.fst _h)
  rw [_h] at this
  exact Nat.lt_of_le_of_lt (remaining_accept _ _) this

def waits (s : Session σ) : Bool :=
  if s.machine.isTerminated then false
  else match _h : FrameChannel.next s.channel with
    | (.frame raw, channel) => waits ({ s with channel }.accept raw)
    | (.idle, _) => true
    | (.closed, _) | (.failed _, _) => false
termination_by FrameChannel.remaining s.channel
decreasing_by
  have := FrameChannel.remaining_next (congrArg Prod.fst _h)
  rw [_h] at this
  exact Nat.lt_of_le_of_lt (remaining_accept _ _) this

/-- The outcome of a session that waits for a limited time, and the channel after it. The channel is
closed in any case. -/
def run (channel : σ) : Except ChannelError Outcome × σ :=
  let (result, s) := pump { channel : Session σ }
  let outcome := { s.outcome with terminated := s.machine.isTerminated }
  (result.map fun _ => outcome, (FrameChannel.close s.channel).2)

end Session

end TilePuzzle
