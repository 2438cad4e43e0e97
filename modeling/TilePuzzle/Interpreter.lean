import TilePuzzle.Instruction
import TilePuzzle.Variables

namespace TilePuzzle

inductive Phase
  | running
  | terminated
  deriving Repr, DecidableEq

structure Interpreter where
  phase : Phase := .running
  vars : Variables := {}
  executed : Nat := 0

namespace Interpreter

abbrev Result := Except FrameError (Option String) × Interpreter

def new : Interpreter := {}

def isTerminated (m : Interpreter) : Bool :=
  m.phase = .terminated

def define (m : Interpreter) (name text : String) : Interpreter :=
  { m with vars := m.vars.set name text }

/-- The integer sum that `ADD` writes. The literal is read before the variable. -/
def addition (vars : Variables) (value src : String) : Except FrameError String :=
  match Variables.integer value with
  | .error e => .error e
  | .ok addend =>
    match vars.require src with
    | .error e => .error e
    | .ok text =>
      match Variables.integer text with
      | .error e => .error e
      | .ok base => .ok (String.ofList (Decimal.ofInt (base + addend)))

/-- Stops the machine, unless the sum it has to emit does not exist. -/
def finish (m : Interpreter) : Result :=
  if m.vars.isEmpty then (.ok none, { m with phase := .terminated })
  else match m.vars.total with
    | .error e => (.error e, m)
    | .ok total =>
      (.ok (some (Frame.encode (String.ofList (Decimal.ofInt total)))),
        { m with phase := .terminated })

/-- The effect of an instruction. A terminated machine ignores it. -/
def apply (m : Interpreter) (i : Instruction) : Result :=
  if m.isTerminated then (.ok none, m)
  else match i with
    | .store value dest => (.ok none, m.define dest value)
    | .mov src dest =>
      match m.vars.require src with
      | .error e => (.error e, m)
      | .ok text => (.ok none, m.define dest text)
    | .add value src dest =>
      match addition m.vars value src with
      | .error e => (.error e, m)
      | .ok text => (.ok none, m.define dest text)
    | .finish => m.finish
    | .unknown _ _ => (.ok none, m)

/-- Executes a raw frame and counts it if it does not fail. A terminated machine ignores it. -/
def execute (m : Interpreter) (raw : String) : Result :=
  if m.isTerminated then (.ok none, m)
  else match Instruction.ofFrame raw with
    | .error e => (.error e, m)
    | .ok i =>
      match m.apply i with
      | (.error e, m') => (.error e, m')
      | (.ok out, m') => (.ok out, { m' with executed := m'.executed + 1 })

def handle (m : Interpreter) (raw : String) : Option String × Interpreter :=
  match m.execute raw with
  | (.ok out, m') => (out, m')
  | (.error _, m') => (none, m')

def run (m : Interpreter) (raws : List String) : Interpreter :=
  raws.foldl (fun m raw => (m.handle raw).2) m

def outputs (m : Interpreter) : List String → List (Option String)
  | [] => []
  | raw :: raws => (m.handle raw).1 :: outputs (m.handle raw).2 raws

end Interpreter

end TilePuzzle
