namespace TilePuzzle.CommandLine

inductive Command
  | run (slug : String) (name : Option String)
  | derive (tiles : List String)
  | config (shows : Bool)
  deriving Repr, DecidableEq

structure Arguments where
  settingsPath : Option String
  verbosity : Nat
  command : Command
  deriving Repr, DecidableEq

inductive Stop
  | usage
  | help
  | version
  deriving Repr, DecidableEq

inductive Shape
  | separator
  | long (name : String) (value : Option String)
  | short (letters : List Char)
  | operand
  deriving Repr, DecidableEq

def shape (arg : String) : Shape :=
  match arg.toList with
  | ['-', '-'] => .separator
  | '-' :: '-' :: cs =>
    .long (String.ofList (cs.takeWhile (· ≠ '=')))
      (match cs.dropWhile (· ≠ '=') with
        | _ :: value => some (String.ofList value)
        | [] => none)
  | '-' :: c :: cs => .short (c :: cs)
  | _ => .operand

/-- The value of an option: the one that is attached to it, or else the next argument, which must
read as an operand. -/
def optionValue (attached : Option String) (args : List String) :
    Except Stop (String × List String) :=
  match attached, args with
  | some value, args => .ok (value, args)
  | none, arg :: args => if shape arg = .operand then .ok (arg, args) else .error .usage
  | none, [] => .error .usage

theorem length_optionValue {attached : Option String} {args rest : List String} {value : String}
    (h : optionValue attached args = .ok (value, rest)) : rest.length ≤ args.length := by
  unfold optionValue at h
  split at h <;> grind

def parseRun (isOpen : Bool) (slug name : Option String) : List String → Except Stop Command
  | [] => match slug with
    | some slug => .ok (.run slug name)
    | none => .error .usage
  | arg :: args =>
    match if isOpen then shape arg else .operand with
    | .separator => parseRun false slug name args
    | .long "help" none | .short ('h' :: _) => .error .help
    | .long "name" attached =>
      match h : optionValue attached args with
      | .error stop => .error stop
      | .ok (value, rest) =>
        if name.isSome then .error .usage
        else
          have : rest.length ≤ args.length := length_optionValue h
          parseRun isOpen slug (some value) rest
    | .operand => if slug.isSome then .error .usage else parseRun isOpen (some arg) name args
    | _ => .error .usage
termination_by args => args.length

def parseDerive (isOpen : Bool) (tiles : List String) : List String → Except Stop Command
  | [] => if tiles.isEmpty then .error .usage else .ok (.derive tiles)
  | arg :: args =>
    match if isOpen then shape arg else .operand with
    | .separator => parseDerive false tiles args
    | .long "help" none | .short ('h' :: _) => .error .help
    | .operand => parseDerive isOpen (tiles ++ [arg]) args
    | _ => .error .usage

def parseConfig (isOpen shows : Bool) : List String → Except Stop Command
  | [] => .ok (.config shows)
  | arg :: args =>
    match if isOpen then shape arg else .operand with
    | .separator => parseConfig false shows args
    | .long "help" none | .short ('h' :: _) => .error .help
    | .long "show" none => if shows then .error .usage else parseConfig isOpen true args
    | _ => .error .usage

def parseCommand (name : String) (args : List String) : Except Stop Command :=
  match name with
  | "run" => parseRun true none none args
  | "derive" => parseDerive true [] args
  | "config" => parseConfig true false args
  | "help" =>
    if args = [] || args ∈ [["run"], ["derive"], ["config"], ["help"]] then .error .help
    else .error .usage
  | _ => .error .usage

/-- What a group of letters behind one hyphen asks for: a count of requests for more detail, and an
option for a path, to which the rest of the group is attached. -/
def parseLetters (verbosity : Nat) : List Char → Except Stop (Nat × Option (Option String))
  | [] => .ok (verbosity, none)
  | 'v' :: cs => parseLetters (verbosity + 1) cs
  | 'c' :: [] => .ok (verbosity, some none)
  | 'c' :: c :: cs => .ok (verbosity, some (some (String.ofList (if c = '=' then cs else c :: cs))))
  | 'h' :: _ => .error .help
  | 'V' :: _ => .error .version
  | _ => .error .usage

def checkPath (path : Option String) (value : String) : Except Stop (Option String) :=
  if path.isSome || value.isEmpty then .error .usage else .ok (some value)

def parseFrom (path : Option String) (verbosity : Nat) : List String → Except Stop Arguments
  | [] => .error .usage
  | arg :: args =>
    match shape arg with
    | .operand => (parseCommand arg args).map (⟨path, verbosity, ·⟩)
    | .separator => .error .usage
    | .long "help" none => .error .help
    | .long "version" none => .error .version
    | .long "verbose" none => parseFrom path (verbosity + 1) args
    | .long "config" attached =>
      match h : optionValue attached args with
      | .error stop => .error stop
      | .ok (value, rest) =>
        match checkPath path value with
        | .error stop => .error stop
        | .ok path =>
          have : rest.length ≤ args.length := length_optionValue h
          parseFrom path verbosity rest
    | .short letters =>
      match parseLetters verbosity letters with
      | .error stop => .error stop
      | .ok (verbosity, none) => parseFrom path verbosity args
      | .ok (verbosity, some attached) =>
        match h : optionValue attached args with
        | .error stop => .error stop
        | .ok (value, rest) =>
          match checkPath path value with
          | .error stop => .error stop
          | .ok path =>
            have : rest.length ≤ args.length := length_optionValue h
            parseFrom path verbosity rest
    | _ => .error .usage
termination_by args => args.length

def parse (args : List String) : Except Stop Arguments :=
  parseFrom none 0 args

end TilePuzzle.CommandLine
