import TilePuzzle.Base64
import TilePuzzle.Decimal
import TilePuzzle.Utf8
import TilePuzzle.Text.Quoted
import TilePuzzle.Text.Space

namespace TilePuzzle

inductive Malformation
  | base64 (fault : Base64.Fault)
  | utf8 (fault : Utf8.Fault)
  | noTokens
  | operands (op : String) (expected found : Nat)
  deriving Repr, DecidableEq

inductive FrameError
  | malformed (reason : Malformation)
  | undefinedVariable (name : String)
  | nonNumeric (text : String)
  deriving Repr, DecidableEq

def Malformation.message : Malformation → String
  | .base64 fault => "invalid base64: " ++ fault.message
  | .utf8 fault => "payload is not UTF-8: " ++ fault.message
  | .noTokens => "frame has no tokens"
  | .operands op expected found => s!"{op} expects {expected} operands, found {found}"

def FrameError.message : FrameError → String
  | .malformed reason => "Malformed frame: " ++ reason.message
  | .undefinedVariable name => "Undefined variable: " ++ name
  | .nonNumeric text => "Non-numeric operand: " ++ Text.quote text

namespace Frame

def encode (text : String) : String :=
  String.ofList ((Base64.encode (Utf8.encode text.toList)).map fun b => Char.ofNat b.toNat)

/-- Decodes a raw frame; white space around it is dropped first. -/
def decode (raw : String) : Except FrameError String :=
  match Base64.decode (Utf8.encode (Text.trim raw.toList)) with
  | .error fault => .error (.malformed (.base64 fault))
  | .ok bytes =>
    match Utf8.decode bytes with
    | .error fault => .error (.malformed (.utf8 fault))
    | .ok text => .ok (String.ofList text)

def tokens (line : String) : List String :=
  (Text.words (line.toList.filter (· ≠ '"'))).map String.ofList

end Frame

end TilePuzzle
