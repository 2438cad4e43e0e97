import TilePuzzle.Markup.Entity
import TilePuzzle.Text.Case
import TilePuzzle.Text.Space

namespace TilePuzzle.Markup

/-- Letters of names. The long s and the kelvin sign count as the letters they fold to. -/
def isNameLetter (c : Char) : Bool :=
  c.isAlpha || c.toNat = 0x17F || c.toNat = 0x212A

def isAttributeStart (c : Char) : Bool :=
  isNameLetter c || c = '_' || c = ':'

def isAttributeName (c : Char) : Bool :=
  isAttributeStart c || c.isDigit || c = '.' || c = '-'

def isBareValue (c : Char) : Bool :=
  !Text.isSpace c && c ∉ ['"', '\'', '=', '<', '>', '\x60']

structure Attribute where
  name : String
  value : String
  deriving Repr, DecidableEq

def value? (cs : List Char) : Option (List Char × Nat) :=
  match cs with
  | [] => none
  | q :: rest =>
    if q = '"' || q = '\'' then
      let body := rest.takeWhile (· ≠ q)
      if body.length < rest.length then some (body, body.length + 2) else none
    else
      let body := cs.takeWhile isBareValue
      if body = [] then none else some (body, body.length)

namespace Attribute

/-- The attribute that a text starts with, and the length of the text it takes. -/
def read? (cs : List Char) : Option (Attribute × Nat) :=
  match cs with
  | [] => none
  | c :: _ =>
    if isAttributeStart c then
      let name := cs.takeWhile isAttributeName
      let afterName := cs.dropWhile isAttributeName
      match Text.trimStart afterName with
      | '=' :: afterSign =>
        let value := Text.trimStart afterSign
        (value? value).map fun (body, length) =>
          (⟨String.ofList (Text.lower name), String.ofList (decodeEntities body)⟩,
            cs.length - value.length + length)
      | _ => none
    else none

def ofText (cs : List Char) : List Attribute :=
  match cs with
  | [] => []
  | _ :: rest =>
    match read? cs with
    | some (a, length) => a :: ofText (rest.drop (length - 1))
    | none => ofText rest
termination_by cs.length
decreasing_by
  · simp only [List.length_drop, List.length_cons]; omega
  · simp

end Attribute

end TilePuzzle.Markup
