import TilePuzzle.Decimal
import TilePuzzle.Log

namespace TilePuzzle.Log

def escape (c : Char) : List Char :=
  match c with
  | '"' => ['\\', '"']
  | '\\' => ['\\', '\\']
  | '\n' => ['\\', 'n']
  | '\r' => ['\\', 'r']
  | '\t' => ['\\', 't']
  | '\x08' => ['\\', 'b']
  | '\x0c' => ['\\', 'f']
  | c =>
    if c.toNat < 0x20 then
      ['\\', 'u', '0', '0', Nat.digitChar (c.toNat / 16), Nat.digitChar (c.toNat % 16)]
    else [c]

def quoted (text : String) : String :=
  String.ofList ('"' :: text.toList.flatMap escape ++ ['"'])

def object (fields : List (String × String)) : String :=
  "\x7b" ++ ",".intercalate (fields.map fun (name, value) => quoted name ++ ":" ++ value) ++ "\x7d"

def Record.line (r : Record) : Format → String
  | .json => object [("level", quoted r.level.name),
      ("fields", object [("message", quoted r.message)]), ("target", quoted r.part.target)]
  | .pretty => s!"{r.level.name} {r.part.target}: {r.message}"
  | .compact => s!"{r.level.name} {r.message}"

end TilePuzzle.Log
