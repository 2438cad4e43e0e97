import TilePuzzle.Markup.Attribute
import TilePuzzle.Text.Word

namespace TilePuzzle.Markup

structure Tag where
  closing : Bool
  name : List Char
  body : List Char
  deriving Repr, DecidableEq

def isTagName (c : Char) : Bool :=
  isNameLetter c || c.isDigit || c = '-'

/-- The longest non-empty part of `run` that ends where a word does, given the text after `run`. -/
def cutAtBoundary : List Char → List Char → Option (List Char)
  | [], _ => none
  | c :: run, after =>
    match cutAtBoundary run after with
    | some name => some (c :: name)
    | none => if Text.boundary c (run ++ after) then some [c] else none

namespace Tag

def selfClosing (t : Tag) : Bool :=
  t.body.getLast? = some '/'

def chars (t : Tag) : List Char :=
  '<' :: (if t.closing then ['/'] else []) ++ t.name ++ t.body ++ ['>']

def readName? (cs : List Char) : Option (List Char × List Char) :=
  match cs with
  | [] => none
  | c :: _ =>
    if isNameLetter c then
      let content := cs.takeWhile fun c => c ≠ '<' && c ≠ '>'
      match cs.drop content.length with
      | '>' :: _ =>
        (cutAtBoundary (cs.takeWhile isTagName) (cs.dropWhile isTagName)).map fun name =>
          (name, content.drop name.length)
      | _ => none
    else none

def read? (cs : List Char) : Option Tag :=
  match cs with
  | '/' :: rest => (readName? rest).map fun (name, body) => ⟨true, name, body⟩
  | _ => (readName? cs).map fun (name, body) => ⟨false, name, body⟩

def attributes (t : Tag) : List Attribute :=
  Attribute.ofText t.body

end Tag

inductive Piece
  | char (c : Char)
  | tag (t : Tag)
  deriving Repr, DecidableEq

def Piece.chars : Piece → List Char
  | .char c => [c]
  | .tag t => t.chars

def pieces (cs : List Char) : List Piece :=
  match cs with
  | [] => []
  | c :: rest =>
    match if c = '<' then Tag.read? rest else none with
    | some t => .tag t :: pieces (rest.drop (t.chars.length - 1))
    | none => .char c :: pieces rest
termination_by cs.length
decreasing_by
  · simp only [List.length_drop, List.length_cons]; omega
  · simp

end TilePuzzle.Markup
