namespace TilePuzzle.Toml

def isBlank (c : Char) : Bool :=
  c = ' ' || c = '\t'

def skipBlanks (cs : List Char) : List Char :=
  cs.dropWhile isBlank

def newline? : List Char → Option (List Char)
  | '\n' :: rest => some rest
  | '\r' :: '\n' :: rest => some rest
  | _ => none

def isControl (c : Char) : Bool :=
  (c.toNat < 0x20 && c ≠ '\t') || c.toNat = 0x7F

def hexDigit? (c : Char) : Option Nat :=
  if c.isDigit then some (c.toNat - 48)
  else if 'a' ≤ c && c ≤ 'f' then some (c.toNat - 87)
  else if 'A' ≤ c && c ≤ 'F' then some (c.toNat - 55)
  else none

def codePoint? (ds : List Char) : Option Char :=
  (ds.mapM hexDigit?).bind fun ds =>
    let n := ds.foldl (16 * · + ·) 0
    if h : n.isValidChar then some (Char.ofNatAux n h) else none

def escaped? (c : Char) : Option Char :=
  match c with
  | 'b' => some '\x08'
  | 't' => some '\t'
  | 'n' => some '\n'
  | 'f' => some '\x0c'
  | 'r' => some '\r'
  | '"' => some '"'
  | '\\' => some '\\'
  | _ => none

/-- A text and what is left after it. -/
abbrev Reading := Option (List Char × List Char)

def Reading.push (c : Char) (r : Reading) : Reading :=
  r.map fun (text, rest) => (c :: text, rest)

def basic : List Char → Reading
  | [] => none
  | '"' :: rest => some ([], rest)
  | '\\' :: 'u' :: a :: b :: c :: d :: rest =>
    match codePoint? [a, b, c, d] with
    | some x => (basic rest).push x
    | none => none
  | '\\' :: 'U' :: a :: b :: c :: d :: e :: f :: g :: h :: rest =>
    match codePoint? [a, b, c, d, e, f, g, h] with
    | some x => (basic rest).push x
    | none => none
  | '\\' :: c :: rest =>
    match escaped? c with
    | some x => (basic rest).push x
    | none => none
  | c :: rest => if isControl c || c = '\\' then none else (basic rest).push c

def literal : List Char → Reading
  | [] => none
  | '\'' :: rest => some ([], rest)
  | c :: rest => if isControl c then none else (literal rest).push c

/-- Reads a basic string of several lines after its first line break. In the mode `skipping`, which
a backslash at the end of a line starts, blanks and line breaks are dropped. Up to two quotes may
stand before the closing ones. -/
def multilineBasic : (skipping : Bool) → List Char → Reading
  | _, [] => none
  | _, '"' :: '"' :: '"' :: '"' :: '"' :: rest => some (['"', '"'], rest)
  | _, '"' :: '"' :: '"' :: '"' :: rest => some (['"'], rest)
  | _, '"' :: '"' :: '"' :: rest => some ([], rest)
  | skipping, '\r' :: '\n' :: rest =>
    if skipping then multilineBasic true rest else (multilineBasic false rest).push '\n'
  | skipping, '\n' :: rest =>
    if skipping then multilineBasic true rest else (multilineBasic false rest).push '\n'
  | _, '\\' :: 'u' :: a :: b :: c :: d :: rest =>
    match codePoint? [a, b, c, d] with
    | some x => (multilineBasic false rest).push x
    | none => none
  | _, '\\' :: 'U' :: a :: b :: c :: d :: e :: f :: g :: h :: rest =>
    match codePoint? [a, b, c, d, e, f, g, h] with
    | some x => (multilineBasic false rest).push x
    | none => none
  | skipping, c :: rest =>
    if c = '\\' then
      if (newline? (skipBlanks rest)).isSome then multilineBasic true rest
      else match rest with
        | [] => none
        | d :: rest =>
          match escaped? d with
          | some x => (multilineBasic false rest).push x
          | none => none
    else if skipping && isBlank c then multilineBasic true rest
    else if isControl c then none
    else (multilineBasic false rest).push c

def multilineLiteral : List Char → Reading
  | [] => none
  | '\'' :: '\'' :: '\'' :: '\'' :: '\'' :: rest => some (['\'', '\''], rest)
  | '\'' :: '\'' :: '\'' :: '\'' :: rest => some (['\''], rest)
  | '\'' :: '\'' :: '\'' :: rest => some ([], rest)
  | '\r' :: '\n' :: rest => (multilineLiteral rest).push '\n'
  | c :: rest => if isControl c && c ≠ '\n' then none else (multilineLiteral rest).push c

def skipNewline (cs : List Char) : List Char :=
  (newline? cs).getD cs

def text : List Char → Reading
  | '"' :: '"' :: '"' :: rest => multilineBasic false (skipNewline rest)
  | '"' :: rest => basic rest
  | '\'' :: '\'' :: '\'' :: rest => multilineLiteral (skipNewline rest)
  | '\'' :: rest => literal rest
  | _ => none

def lineText : List Char → Reading
  | '"' :: rest => basic rest
  | '\'' :: rest => literal rest
  | _ => none

def longestRun (x : Char) : List Char → Nat
  | [] => 0
  | c :: cs => max ((c :: cs).takeWhile (· = x)).length (longestRun x cs)

/-- The escape of a character in a basic string, if it needs one there. Line breaks stand as they
are where the string has several lines, and so do quotes, unless they are the third in a row. -/
def escape (multiline : Bool) (quotes : Nat) (c : Char) : List Char :=
  if c = '"' then if quotes < (if multiline then 2 else 0) then ['"'] else ['\\', '"']
  else if c = '\\' then ['\\', '\\']
  else if c = '\n' then if multiline then ['\n'] else ['\\', 'n']
  else if c = '\t' then ['\\', 't']
  else if c = '\r' then ['\\', 'r']
  else if c.toNat = 8 then ['\\', 'b']
  else if c.toNat = 12 then ['\\', 'f']
  else if isControl c then
    let ds := (Nat.toDigits 16 c.toNat).map Char.toUpper
    ['\\', 'u'] ++ List.replicate (4 - ds.length) '0' ++ ds
  else [c]

def escapeAll (multiline : Bool) : (quotes : Nat) → List Char → List Char
  | _, [] => []
  | quotes, c :: cs =>
    let e := escape multiline quotes c
    e ++ escapeAll multiline (if e = ['"'] then quotes + 1 else 0) cs

/-- The form in which a string is written: on one line if it has a single line, with escapes only
if nothing else will do, and without the quotes that it holds. -/
def writeText (cs : List Char) : List Char :=
  let needsEscape := cs.any fun c => isControl c && c ≠ '\n'
  let multiline := '\n' ∈ cs
  let basic := '"' :: escapeAll false 0 cs ++ ['"']
  let long := ['"', '"', '"'] ++ (if multiline then ['\n'] else []) ++ escapeAll true 0 cs ++
    ['"', '"', '"']
  if !needsEscape && '\\' ∉ cs && '"' ∉ cs && !multiline then basic
  else if !needsEscape && '\'' ∉ cs && !multiline then '\'' :: cs ++ ['\'']
  else if !needsEscape && '\\' ∉ cs && longestRun '"' cs ≤ 2 then long
  else if !needsEscape && longestRun '\'' cs ≤ 2 then
    ['\'', '\'', '\''] ++ (if multiline then ['\n'] else []) ++ cs ++ ['\'', '\'', '\'']
  else if multiline then long
  else basic

end TilePuzzle.Toml
