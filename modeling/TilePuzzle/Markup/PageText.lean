import TilePuzzle.Markup.Entity
import TilePuzzle.Text.Case
import TilePuzzle.Text.Space

namespace TilePuzzle.Markup.PageText

/-- The state of the scan: the text written so far, latest character first, and the tag that is
open, with its characters latest first. -/
structure State where
  written : List Char := []
  tag : Option (List Char) := none
  script : Bool := false
  style : Bool := false
  deriving Repr, DecidableEq

def blockNames : List (List Char) :=
  ["div", "p", "h1", "h2", "h3", "h4", "h5", "h6", "li", "tr"].map String.toList

def breaksLine (tag : List Char) : Bool :=
  let tag := (tag.reverse.dropWhile (· = '/')).reverse
  tag = ['b', 'r'] || match tag with
    | '/' :: name => name ∈ blockNames
    | name => name ∈ blockNames

/-- The first word of a tag, in lower case; closing tags keep their slash. -/
def tagWord (content : List Char) : List Char :=
  Text.lower ((Text.words content).headD [])

def closeTag (s : State) (word : List Char) : State where
  written := if breaksLine word then '\n' :: s.written else s.written
  tag := none
  script :=
    if word = "script".toList then true else if word = "/script".toList then false else s.script
  style :=
    if word = "style".toList then true else if word = "/style".toList then false else s.style

/-- Writes a character of the text. White space is written as one space, and not at all after
white space. -/
def write (written : List Char) (c : Char) : List Char :=
  if Text.isSpace c then
    match written with
    | ' ' :: _ => written
    | '\n' :: _ => written
    | _ => ' ' :: written
  else c :: written

def step (s : State) (c : Char) : State :=
  if c = '<' then { s with tag := some [] }
  else match s.tag with
    | some content =>
      if c = '>' then closeTag s (tagWord content.reverse)
      else { s with tag := some (c :: content) }
    | none => if s.script || s.style then s else { s with written := write s.written c }

def scan (s : State) (cs : List Char) : State :=
  cs.foldl step s

def ofPage (cs : List Char) : List Char :=
  Text.joinWith ['\n'] (Text.trimmedLines (decodeEntities (scan {} cs).written.reverse))

end TilePuzzle.Markup.PageText
