import TilePuzzle.Frame

namespace TilePuzzle

inductive Instruction
  | store (value dest : String)
  | mov (src dest : String)
  | add (value src dest : String)
  | finish
  | unknown (op : String) (operands : List String)
  deriving Repr, DecidableEq

inductive OpCode
  | store
  | mov
  | add
  | finish
  deriving Repr, DecidableEq

namespace OpCode

def name : OpCode → String
  | store => "STORE"
  | mov => "MOV"
  | add => "ADD"
  | finish => "END"

def arity : OpCode → Nat
  | store => 2
  | mov => 2
  | add => 3
  | finish => 0

def all : List OpCode :=
  [store, mov, add, finish]

def named? (name : String) : Option OpCode :=
  all.find? (·.name = name)

/-- The instruction with the given operands, if their number is right. -/
def instruction? : OpCode → List String → Option Instruction
  | store, [value, dest] => some (.store value dest)
  | mov, [src, dest] => some (.mov src dest)
  | add, [value, src, dest] => some (.add value src dest)
  | finish, [] => some .finish
  | _, _ => none

end OpCode

namespace Instruction

def ofTokens : List String → Except FrameError Instruction
  | [] => .error (.malformed .noTokens)
  | op :: operands =>
    match OpCode.named? op with
    | none => .ok (.unknown op operands)
    | some code =>
      match code.instruction? operands with
      | some instruction => .ok instruction
      | none => .error (.malformed (.operands op code.arity operands.length))

def ofFrame (raw : String) : Except FrameError Instruction :=
  match Frame.decode raw with
  | .error e => .error e
  | .ok line => ofTokens (Frame.tokens line)

def op : Instruction → String
  | store .. => OpCode.store.name
  | mov .. => OpCode.mov.name
  | add .. => OpCode.add.name
  | finish => OpCode.finish.name
  | unknown op _ => op

def operands : Instruction → List String
  | store value dest => [value, dest]
  | mov src dest => [src, dest]
  | add value src dest => [value, src, dest]
  | finish => []
  | unknown _ operands => operands

def tokens (i : Instruction) : List String :=
  i.op :: i.operands

def display (i : Instruction) : String :=
  " ".intercalate i.tokens

instance : ToString Instruction := ⟨display⟩

end Instruction

end TilePuzzle
