import TilePuzzle.Toml.Number
import TilePuzzle.Toml.Text
import TilePuzzle.Toml.Value

namespace TilePuzzle.Toml

def maxDepth : Nat := 79

def isBareKey (c : Char) : Bool :=
  c.isAlphanum || c = '-' || c = '_'

def keyPart (cs : List Char) : Reading :=
  match lineText cs with
  | some r => some r
  | none =>
    let key := cs.takeWhile isBareKey
    if key = [] then none else some (key, cs.dropWhile isBareKey)

def key (cs : List Char) : Option (List String × List Char) :=
  match keyPart (skipBlanks cs) with
  | none => none
  | some (part, rest) =>
    match skipBlanks rest with
    | '.' :: rest =>
      if rest.length < cs.length then
        (key rest).map fun (parts, rest) => (String.ofList part :: parts, rest)
      else none
    | rest => some ([String.ofList part], rest)
termination_by cs.length

def skipTrivia : (comment : Bool) → List Char → List Char
  | _, [] => []
  | _, '\n' :: cs => skipTrivia false cs
  | _, '\r' :: '\n' :: cs => skipTrivia false cs
  | true, c :: cs => if isControl c then c :: cs else skipTrivia true cs
  | false, c :: cs =>
    if c = '#' then skipTrivia true cs
    else if isBlank c then skipTrivia false cs
    else c :: cs

def listItems (item : List Char → Option (Value × List Char)) (cs : List Char) :
    Option (List Value × List Char) :=
  match skipTrivia false cs with
  | ']' :: rest => some ([], rest)
  | start =>
    match item start with
    | none => none
    | some (v, rest) =>
      match skipTrivia false rest with
      | ']' :: rest => some ([v], rest)
      | ',' :: rest =>
        if rest.length < cs.length then
          (listItems item rest).map fun (vs, rest) => (v :: vs, rest)
        else none
      | _ => none
termination_by cs.length

def keyValue (item : List Char → Option (Value × List Char)) (cs : List Char) :
    Option ((List String × Value) × List Char) :=
  match key cs with
  | some (path, '=' :: rest) => (item (skipBlanks rest)).map fun (v, rest) => ((path, v), rest)
  | _ => none

def addEntry (es : Entries) (path : List String) (v : Value) : Option Entries :=
  match path.getLast? with
  | some key => es.insert path.dropLast key v
  | none => none

def braceItems (item : List Char → Option (Value × List Char)) (es : Entries) (cs : List Char) :
    Option (Entries × List Char) :=
  match keyValue item cs with
  | none => none
  | some ((path, v), rest) =>
    match addEntry es path v with
    | none => none
    | some es =>
      match skipBlanks rest with
      | '\x7d' :: rest => some (es, rest)
      | ',' :: rest => if rest.length < cs.length then braceItems item es rest else none
      | _ => none
termination_by cs.length

/-- Reads a value in which lists and tables are nested at most as deep as given. -/
def value : (depth : Nat) → List Char → Option (Value × List Char)
  | depth, '[' :: rest =>
    match depth with
    | 0 => none
    | depth + 1 => (listItems (value depth) rest).map fun (vs, rest) => (.list vs, rest)
  | depth, '\x7b' :: rest =>
    match depth with
    | 0 => none
    | depth + 1 =>
      match skipBlanks rest with
      | '\x7d' :: rest => some (.table .braces [], rest)
      | rest => (braceItems (value depth) [] rest).map fun (es, rest) => (.table .braces es, rest)
  | _, '"' :: cs => (text ('"' :: cs)).map fun (t, rest) => (.text (String.ofList t), rest)
  | _, '\'' :: cs => (text ('\'' :: cs)).map fun (t, rest) => (.text (String.ofList t), rest)
  | _, cs => scalar cs

inductive Statement
  | entry (path : List String) (v : Value)
  | header (path : List String)
  | listHeader (path : List String)
  deriving Repr

def lineEnd (cs : List Char) : Option (List Char) :=
  let cs := skipBlanks cs
  let cs := if cs.head? = some '#' then cs.dropWhile (!isControl ·) else cs
  match cs with
  | [] => some []
  | cs => newline? cs

def statement : List Char → Option (Statement × List Char)
  | '[' :: '[' :: cs =>
    match key cs with
    | some (path, ']' :: ']' :: rest) => some (.listHeader path, rest)
    | _ => none
  | '[' :: cs =>
    match key cs with
    | some (path, ']' :: rest) => some (.header path, rest)
    | _ => none
  | cs => (keyValue (value maxDepth) cs).map fun ((path, v), rest) => (.entry path v, rest)

def statements (cs : List Char) : Option (List Statement) :=
  match skipBlanks cs with
  | [] => some []
  | c :: rest =>
    if c = '#' || c = '\n' || c = '\r' then
      match lineEnd (c :: rest) with
      | none => none
      | some rest => if rest.length < cs.length then statements rest else none
    else
      match statement (c :: rest) with
      | none => none
      | some (s, rest) =>
        match lineEnd rest with
        | none => none
        | some rest =>
          if rest.length < cs.length then (statements rest).map (s :: ·) else none
termination_by cs.length

/-- A file in the making: its entries, and the header that the next ones stand under. -/
structure Draft where
  entries : Entries := []
  header : List String := []

def Draft.add (d : Draft) : Statement → Option Draft
  | .entry path v =>
    match path.getLast? with
    | none => none
    | some key => (d.entries.insertUnder d.header path.dropLast key v).map fun es => { d with entries := es }
  | .header path =>
    match path.getLast? with
    | none => none
    | some key => (d.entries.openTable path.dropLast key).map fun es => ⟨es, path⟩
  | .listHeader path =>
    match path.getLast? with
    | none => none
    | some key => (d.entries.addTable path.dropLast key).map fun es => ⟨es, path⟩

def Draft.addAll (d : Draft) : List Statement → Option Draft
  | [] => some d
  | s :: ss => (d.add s).bind (·.addAll ss)

def skipMark (cs : List Char) : List Char :=
  if cs.head? = some (Char.ofNat 0xFEFF) then cs.drop 1 else cs

def parse? (file : String) : Option Entries :=
  ((statements (skipMark file.toList)).bind ({} : Draft).addAll).map (·.entries)

end TilePuzzle.Toml
