namespace TilePuzzle.Toml

/-- How a table came about: by a header of its own, as the parent of another header's table, by a
dotted key, or in braces. -/
inductive Origin
  | header
  | implied
  | dotted
  | braces
  deriving Repr, DecidableEq

/-- A value. Of floats and dates nothing is kept, since no setting is one. -/
inductive Value
  | text (s : String)
  | integer (z : Int)
  | float
  | boolean (b : Bool)
  | date
  | list (vs : List Value)
  | table (origin : Origin) (entries : List (String × Value))
  | tables (elements : List (List (String × Value)))
  deriving Repr

abbrev Entries := List (String × Value)

namespace Entries

def find? (es : Entries) (key : String) : Option Value :=
  (List.find? (·.1 = key) es).map (·.2)

def replace (es : Entries) (key : String) (v : Value) : Entries :=
  es.map fun e => if e.1 = key then (key, v) else e

/-- Changes the table at a path. Tables on the way that do not exist are made; of a list of tables
the last one is meant. A dotted key enters only tables that dotted keys and headers below have
made. -/
def update (dotted : Bool) (change : Origin → Entries → Option Entries) :
    List String → Origin → Entries → Option Entries
  | [], origin, es => change origin es
  | key :: path, _, es =>
    match es.find? key with
    | none =>
      let origin := if dotted then .dotted else .implied
      (update dotted change path origin []).map fun inner => es ++ [(key, .table origin inner)]
    | some (.table origin inner) =>
      if origin = .braces || (dotted && origin = .header) then none
      else (update dotted change path origin inner).map fun inner =>
        es.replace key (.table origin inner)
    | some (.tables elements) =>
      match elements.getLast? with
      | none => none
      | some last => (update dotted change path .header last).map fun last =>
        es.replace key (.tables (elements.dropLast ++ [last]))
    | some _ => none

def insert (es : Entries) (path : List String) (key : String) (v : Value) : Option Entries :=
  let change := fun (origin : Origin) (es : Entries) =>
    if (path ≠ [] && origin ≠ .dotted) || (es.find? key).isSome then none else some (es ++ [(key, v)])
  update true change path .header es

def openTable (es : Entries) (path : List String) (key : String) : Option Entries :=
  let change := fun (_ : Origin) (es : Entries) =>
    match es.find? key with
    | none => some (es ++ [(key, .table .header [])])
    | some (.table .implied inner) => some (es.replace key (.table .header inner))
    | some _ => none
  update false change path .header es

def addTable (es : Entries) (path : List String) (key : String) : Option Entries :=
  let change := fun (_ : Origin) (es : Entries) =>
    match es.find? key with
    | none => some (es ++ [(key, .tables [[]])])
    | some (.tables elements) => some (es.replace key (.tables (elements ++ [[]])))
    | some _ => none
  update false change path .header es

def insertUnder (es : Entries) (header path : List String) (key : String) (v : Value) :
    Option Entries :=
  update false (fun _ es => es.insert path key v) header .header es

end Entries

end TilePuzzle.Toml
