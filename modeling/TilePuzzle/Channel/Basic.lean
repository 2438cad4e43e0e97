import TilePuzzle.Url.Parse

namespace TilePuzzle

inductive SocketFault
  | refused
  | rejected (status : String)
  | reset
  deriving Repr, DecidableEq

inductive ChannelError
  | socket (fault : SocketFault)
  | connectTimeout (url : String) (secs : UInt64)
  | malformedUrl (url : String) (e : UrlError)
  | foreignScheme (url : String)
  | closed
  deriving Repr, DecidableEq

def SocketFault.message : SocketFault → String
  | .refused => "IO error: Connection refused (os error 111)"
  | .rejected status => "HTTP error: " ++ status
  | .reset => "WebSocket protocol error: Connection reset without closing handshake"

def ChannelError.message : ChannelError → String
  | .socket fault => "WebSocket error: " ++ fault.message
  | .connectTimeout url secs => s!"Timed out after {secs}s connecting to {url}"
  | .malformedUrl url e => s!"Invalid channel URL: {url}: {e.message}"
  | .foreignScheme url => s!"Invalid channel URL: {url}: scheme must be ws or wss"
  | .closed => "Channel closed"

def Url.isChannel (u : Url) : Bool :=
  u.scheme = "ws".toList || u.scheme = "wss".toList

/-- What one who waits for a frame gets. A channel is `idle` if nothing comes for as long as one is
willing to wait. -/
inductive Reading
  | frame (raw : String)
  | closed
  | failed (e : ChannelError)
  | idle
  deriving Repr, DecidableEq

/-- Channels with states of type `σ`. Only finitely many frames can be read from one, whatever is
sent in between. -/
class FrameChannel (σ : Type) where
  next : σ → Reading × σ
  send : σ → String → Except ChannelError Unit × σ
  close : σ → Except ChannelError Unit × σ
  remaining : σ → Nat
  remaining_next : ∀ {s : σ} {raw : String}, (next s).1 = .frame raw →
    remaining (next s).2 < remaining s
  remaining_send : ∀ (s : σ) (payload : String), remaining (send s payload).2 ≤ remaining s

end TilePuzzle
