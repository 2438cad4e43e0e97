import Std.Data.TreeMap
import TilePuzzle.Frame

namespace TilePuzzle

/-- Entries in order of definition, with an index from each name to the place of its entry. -/
structure Variables where
  index : Std.TreeMap String Nat := ∅
  entries : Array (String × String) := #[]

namespace Variables

def empty : Variables := {}

def toList (vars : Variables) : List (String × String) :=
  vars.entries.toList

def size (vars : Variables) : Nat :=
  vars.entries.size

def isEmpty (vars : Variables) : Bool :=
  vars.entries.isEmpty

def get? (vars : Variables) (name : String) : Option String :=
  vars.index[name]?.bind fun slot => vars.entries[slot]?.map (·.2)

def require (vars : Variables) (name : String) : Except FrameError String :=
  match vars.get? name with
  | some text => .ok text
  | none => .error (.undefinedVariable name)

def set (vars : Variables) (name text : String) : Variables :=
  match vars.index[name]? with
  | some slot => { vars with entries := vars.entries.setIfInBounds slot (name, text) }
  | none => ⟨vars.index.insert name vars.entries.size, vars.entries.push (name, text)⟩

/-- Reads a text as an integer. The reader takes underscores too, so the text is checked first. -/
def integer (text : String) : Except FrameError Int :=
  if Decimal.isSigned text.toList then
    match Decimal.looseInt? text.toList with
    | some z => .ok z
    | none => .error (.nonNumeric text)
  else .error (.nonNumeric text)

def sum : Int → List String → Except FrameError Int
  | acc, [] => .ok acc
  | acc, text :: texts =>
    match integer text with
    | .error e => .error e
    | .ok z => sum (acc + z) texts

def total (vars : Variables) : Except FrameError Int :=
  sum 0 (vars.toList.map (·.2))

end Variables

end TilePuzzle
