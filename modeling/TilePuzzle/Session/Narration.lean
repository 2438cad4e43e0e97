import TilePuzzle.Channel.Socket
import TilePuzzle.Log
import TilePuzzle.Session

namespace TilePuzzle

open Log

namespace Interpreter

def recordsOf (m : Interpreter) : Instruction → List Record
  | .store .. => [{ part := .interpreter, level := .debug, message := "STORE" }]
  | .mov .. => [{ part := .interpreter, level := .debug, message := "MOV" }]
  | .add .. => [{ part := .interpreter, level := .debug, message := "ADD" }]
  | .finish =>
    let message := if m.vars.isEmpty then "END with no variables stored, nothing to send"
      else "END reached"
    [{ part := .interpreter, level := .info, message }]
  | .unknown op operands =>
    [{ part := .interpreter, level := .info, message := (Instruction.unknown op operands).display }]

def records (m : Interpreter) (raw : String) : List Record :=
  if m.isTerminated then
    [{ part := .interpreter, level := .debug
       message := "Interpreter already terminated, ignoring frame" }]
  else match m.execute raw, Instruction.ofFrame raw with
    | (.ok _, _), .ok i => m.recordsOf i
    | _, _ => [{ part := .interpreter, level := .warn, message := "Dropping frame" }]

end Interpreter

namespace Session

def span : Span := ⟨.session, .info, "frame_session"⟩

def frameSpan : Span := ⟨.session, .debug, "frame"⟩

def record (level : Level) (message : String) : Record :=
  { part := .session, level, message }

def readRecords (s : Socket) (endless : Bool) (m : Interpreter) : List Arrival → List Record
  | [] =>
    if !s.holdsOpen then [record .info "Frame channel closed before END"]
    else if endless then [] else [record .warn "No frame received before idle timeout"]
  | .error _ :: _ =>
    [{ part := .socket, level := .warn, message := "Error while closing frame channel" }]
  | .ok message :: rest =>
    match message.route with
    | .skip _ =>
      { part := .socket, level := .trace, message := "Skipping channel message" } ::
        readRecords s endless m rest
    | .closed =>
      [{ part := .socket, level := .info, message := "Frame channel closed by peer" },
        record .info "Frame channel closed before END"]
    | .frame raw =>
      let (out, m') := m.handle raw
      { part := .socket, level := .trace, message := "Frame received" } ::
        frameSpan.around (m.records raw) ++
        match out with
        | some frame => record .info "Sending result frame" ::
          match (s.send frame).1 with
          | .ok () => []
          | .error _ => [record .warn "Failed to send result frame"]
        | none => if m'.isTerminated then [] else readRecords s endless m' rest

/-- The records of a session over an open socket. One that waits without end does not finish. -/
def records (s : Socket) (endless : Bool) : List Record :=
  let read := readRecords s endless Interpreter.new s.incoming
  if endless then span.opening read
  else span.around (read ++ [record .info "Frame session finished"])

end Session

namespace Socket

def connectRecords (peer : String → Handshake) (url : String) : List Record :=
  match checkUrl url with
  | .error _ => []
  | .ok () =>
    { part := .socket, level := .info, message := "Connecting to frame channel" } ::
      match peer url with
      | .accepted _ => [{ part := .socket, level := .debug, message := "Frame channel connected" }]
      | _ => []

end Socket

end TilePuzzle
