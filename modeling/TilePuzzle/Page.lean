import TilePuzzle.Markup.PageText
import TilePuzzle.Markup.Tag
import TilePuzzle.Text.Quoted
import TilePuzzle.Tile
import TilePuzzle.Utf8

namespace TilePuzzle.Page

open Markup

inductive TileFault
  | value (text : String)
  | token (name : String)
  deriving Repr, DecidableEq

inductive TileError
  | noTiles (className : String)
  | invalidTile (position : Nat) (fault : TileFault)
  deriving Repr, DecidableEq

def TileFault.message : TileFault → String
  | .value text => s!"text {Text.quote text} is not a non-negative integer"
  | .token name => s!"missing '{name}' attribute"

def TileError.message : TileError → String
  | .noTiles className => s!"No elements with class '{className}' found on the page"
  | .invalidTile position fault => s!"Tile {position} is invalid: {fault.message}"

def sameName (a b : List Char) : Bool :=
  a.map Char.toLower = b.map Char.toLower

/-- The pieces up to the closing tag that matches an element of the given name which is open
`depth + 1` times. Self-closing tags neither open nor close. -/
def balanced? (name : List Char) : Nat → List Piece → Option (List Piece)
  | _, [] => none
  | depth, .char c :: ps => (balanced? name depth ps).map (.char c :: ·)
  | depth, .tag t :: ps =>
    if !sameName t.name name || t.selfClosing then (balanced? name depth ps).map (.tag t :: ·)
    else if !t.closing then (balanced? name (depth + 1) ps).map (.tag t :: ·)
    else match depth with
      | 0 => some []
      | depth + 1 => (balanced? name depth ps).map (.tag t :: ·)

/-- The content of an element, given the pieces after its opening tag. An element that is never
closed ends before the next opening bracket. -/
def content (name : List Char) (ps : List Piece) : List Char :=
  match balanced? name 0 ps with
  | some inner => inner.flatMap Piece.chars
  | none => (ps.flatMap Piece.chars).takeWhile (· ≠ '<')

def countsFor (name : List Char) (t : Tag) : Bool :=
  sameName t.name name && !t.selfClosing

def opens (name : List Char) : Piece → Bool
  | .char _ => false
  | .tag t => countsFor name t && !t.closing

def closes (name : List Char) : Piece → Bool
  | .char _ => false
  | .tag t => countsFor name t && t.closing

def cutAt? : List Char → Nat → Option (List Char × List Char)
  | cs, 0 => some ([], cs)
  | [], _ + 1 => none
  | c :: cs, n + 1 =>
    if Utf8.byteLength [c] ≤ n + 1 then
      (cutAt? cs (n + 1 - Utf8.byteLength [c])).map fun (cs, ds) => (c :: cs, ds)
    else none

inductive Outcome
  | found (position : Nat)
  | exhausted
  | underflow
  deriving Repr, DecidableEq

/-- Goes over a page with a count of how often the element is open, and stops at the closing tag
that takes the count to zero. -/
def search (name : List Char) : Nat → Nat → List Piece → Outcome
  | _, _, [] => .exhausted
  | count, position, p :: ps =>
    if opens name p then search name (count + 1) (position + Utf8.byteLength p.chars) ps
    else if closes name p then
      if count = 0 then .underflow
      else if count = 1 then .found position
      else search name (count - 1) (position + Utf8.byteLength p.chars) ps
    else search name count (position + Utf8.byteLength p.chars) ps

/-- The content of an element whose opening tag ends at a byte position of the page, unless the
count of open elements falls below zero or a cut does not lie between two characters of the page. -/
def content? (name page : List Char) (start : Nat) : Option (List Char) :=
  match cutAt? page start with
  | none => none
  | some (_, rest) =>
    match search name 1 0 (pieces rest) with
    | .found stop => (cutAt? rest stop).map Prod.fst
    | .exhausted => (cutAt? rest (Utf8.byteLength (rest.takeWhile (· ≠ '<')))).map Prod.fst
    | .underflow => none

def hasClass (className : String) (attributes : List Attribute) : Bool :=
  attributes.any fun a =>
    a.name = "class" && (Text.words a.value.toList).any (· = className.toList)

def tile (tokenName : String) (inner : List Char) (attributes : List Attribute) :
    Except TileFault Tile :=
  let text := PageText.ofPage inner
  match Decimal.word? (Text.trim text) with
  | none => .error (.value (String.ofList text))
  | some value =>
    match attributes.find? (·.name = tokenName) with
    | none => .error (.token tokenName)
    | some a => .ok ⟨value, a.value⟩

def collect (className tokenName : String) : Nat → List Piece → Except TileError (List Tile)
  | _, [] => .ok []
  | position, .char _ :: ps => collect className tokenName position ps
  | position, .tag t :: ps =>
    let attributes := t.attributes
    if t.closing || !hasClass className attributes then collect className tokenName position ps
    else match tile tokenName (content t.name ps) attributes with
      | .error fault => .error (.invalidTile position fault)
      | .ok tile => (collect className tokenName (position + 1) ps).map (tile :: ·)

def tiles (page className tokenAttribute : String) : Except TileError (List Tile) :=
  let tokenName := String.ofList (Text.lower tokenAttribute.toList)
  match collect className tokenName 0 (pieces page.toList) with
  | .error e => .error e
  | .ok [] => .error (.noTiles className)
  | .ok tiles => .ok tiles

def text (page : String) : String :=
  String.ofList (PageText.ofPage page.toList)

end TilePuzzle.Page
