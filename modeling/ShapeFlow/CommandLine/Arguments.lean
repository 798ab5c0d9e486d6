import ShapeFlow.Run.Mode

/-!
The arguments of the command line: one network file, and options with a value each. An option is
written `--name value`, `--name=value`, `-n value`, `-nvalue` or `-n=value`; after `--` nothing is
an option. Only shapes may be given more than once.
-/

namespace ShapeFlow.CommandLine

inductive Key where
  | shape
  | mode
  | config
  | output
  deriving DecidableEq

def Key.ofLongName : List Char → Option Key
  | ['s', 'h', 'a', 'p', 'e'] => some .shape
  | ['m', 'o', 'd', 'e'] => some .mode
  | ['c', 'o', 'n', 'f', 'i', 'g'] => some .config
  | ['o', 'u', 't', 'p', 'u', 't'] => some .output
  | _ => none

def Key.ofLetter : Char → Option Key
  | 's' => some .shape
  | 'm' => some .mode
  | 'c' => some .config
  | 'o' => some .output
  | _ => none

/-- One argument: a plain value, an option with or without its value attached, the mark that ends
the options, or an option nobody knows. -/
inductive Token where
  | plain (text : String)
  | option (key : Key) (attached : Option String)
  | endOfOptions
  | unknown
  deriving DecidableEq

def Token.ofLong (text : List Char) : Token :=
  match text.span (· != '=') with
  | (name, rest) =>
    match Key.ofLongName name with
    | none => .unknown
    | some key =>
      match rest with
      | [] => .option key none
      | _ :: value => .option key (some (String.ofList value))

def Token.ofShort (letter : Char) (rest : List Char) : Token :=
  match Key.ofLetter letter with
  | none => .unknown
  | some key =>
    match rest with
    | [] => .option key none
    | '=' :: value => .option key (some (String.ofList value))
    | value => .option key (some (String.ofList value))

def Token.ofArgument (argument : String) : Token :=
  match argument.toList with
  | ['-', '-'] => .endOfOptions
  | '-' :: '-' :: rest => Token.ofLong rest
  | ['-'] => .plain argument
  | '-' :: letter :: rest => Token.ofShort letter rest
  | _ => .plain argument

structure Arguments where
  network : Option String
  shapes : List String
  mode : Option Mode
  config : Option String
  output : Option String
  deriving DecidableEq

namespace Arguments

def empty : Arguments := ⟨none, [], none, none, none⟩

/-- A path, which may not be empty, in a place that is still free. -/
def placePath (place : Option String) (path : String) : Option (Option String) :=
  if place.isSome || path.isEmpty then none else some (some path)

def setOption (arguments : Arguments) (key : Key) (value : String) : Option Arguments :=
  match key with
  | .shape => some { arguments with shapes := arguments.shapes ++ [value] }
  | .mode =>
    match arguments.mode, Mode.parse value with
    | none, .ok mode => some { arguments with mode := some mode }
    | _, _ => none
  | .config => do some { arguments with config := ← placePath arguments.config value }
  | .output => do some { arguments with output := ← placePath arguments.output value }

def setNetwork (arguments : Arguments) (path : String) : Option Arguments := do
  some { arguments with network := ← placePath arguments.network path }

/-- Takes in the arguments from left to right; none if they do not make sense. The value of an
option that is not attached to it is the next argument, which must look like a plain value. -/
def collect (arguments : Arguments) : List String → Option Arguments
  | [] => some arguments
  | argument :: rest =>
    match Token.ofArgument argument with
    | .plain path => do (← arguments.setNetwork path).collect rest
    | .option key (some value) => do (← arguments.setOption key value).collect rest
    | .option key none =>
      match rest with
      | [] => none
      | value :: rest =>
        match Token.ofArgument value with
        | .plain value => do (← arguments.setOption key value).collect rest
        | _ => none
    | .endOfOptions => rest.foldlM setNetwork arguments
    | .unknown => none

def parse (arguments : List String) : Option (Arguments × String) := do
  let arguments ← empty.collect arguments
  some (arguments, ← arguments.network)

end Arguments

end ShapeFlow.CommandLine
