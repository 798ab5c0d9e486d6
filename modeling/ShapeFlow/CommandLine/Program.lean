import ShapeFlow.CommandLine.Arguments
import ShapeFlow.Description.Json
import ShapeFlow.Run.Infer

/-!
The command line program as a function of its arguments, of the files it can read and of the paths it
can write: an exit code, the text it prints, and the file it writes. A run that cannot infer the shapes
prints and writes nothing. The shapes are printed before the file is written, so they stand there as
well if it cannot be.
-/

namespace ShapeFlow.CommandLine

structure Result where
  exitCode : Nat
  stdout : String
  written : Option (String × String)
  deriving DecidableEq

/-- Why a run does not succeed: the arguments make no sense, something that was read or asked for is
refused, or the network has a blob whose size cannot be counted. -/
inductive Failure where
  | usage
  | refused
  | uncountable
  deriving DecidableEq

def Failure.exitCode : Failure → Nat
  | .usage => 2
  | .refused => 1
  | .uncountable => 101

def Result.ofFailure (cause : Failure) : Result := ⟨cause.exitCode, "", none⟩

/-- What becomes of a result whose file may be at a path that cannot be written. -/
def Result.settle (accepts : String → Bool) (result : Result) : Result :=
  match result.written with
  | none => result
  | some (path, _) => if accepts path then result else ⟨Failure.refused.exitCode, result.stdout, none⟩

def padRight (width : Nat) (text : String) : String :=
  text ++ String.ofList (List.replicate (width - text.length) ' ')

/-- Shapes separated by blanks, or a dash if there are none. -/
def formatShapes (shapes : List Shape) : String :=
  if shapes.isEmpty then "-" else String.intercalate " " (shapes.map Shape.text)

def headerLine (network : Network) (mode : Mode) : String :=
  "[" ++ network.name ++ "] shapes after " ++ mode.text ++ " inference:"

def layerLine (layer : Layer) : String :=
  "  " ++ padRight 24 layer.name ++ " " ++ padRight 18 layer.typeName ++ " in: " ++
    padRight 32 (formatShapes layer.inputShapes) ++ " out: " ++ formatShapes layer.outputShapes

def reportLines (network : Network) (mode : Mode) : List String :=
  headerLine network mode :: network.layers.map layerLine

def report (network : Network) (mode : Mode) : String :=
  String.join ((reportLines network mode).map (· ++ "\n"))

def readConfig (files : String → Option String) : Option String → Option RunConfig
  | none => some .default
  | some path => do
    let text ← files path
    (RunConfig.parse text).toOption

/-- The shapes with one more request, which replaces an earlier one for its name. -/
def addOverride (shapes : Overrides) (text : String) : Option Overrides := do
  let (name, shape) ← (parseOverride text).toOption
  some (shapes.insert name shape)

/-- The configuration with the mode and the shapes given as arguments; later shapes count. -/
def mergeConfig (arguments : Arguments) (config : RunConfig) : Option RunConfig := do
  let shapes ← arguments.shapes.foldlM addOverride config.inputShapes
  some ⟨arguments.mode.getD config.mode, shapes⟩

def readNetwork (files : String → Option String) (path : String) : Except Failure Network :=
  match files path with
  | none => .error .refused
  | some text =>
    match Network.parse text with
    | .ok network => .ok network
    | .error (.uncountableBlob ..) => .error .uncountable
    | .error _ => .error .refused

def readRun (files : String → Option String) (arguments : Arguments) : Except Failure RunConfig :=
  match readConfig files arguments.config >>= mergeConfig arguments with
  | some config => .ok config
  | none => .error .refused

def infer (files : String → Option String) (arguments : Arguments) (path : String) :
    Except Failure (Network × Mode) := do
  let network ← readNetwork files path
  let config ← readRun files arguments
  let run := network.inferShapes .builtIn config
  match run.journal.outcome with
  | .ok _ => .ok (run.network, config.mode)
  | .error _ => .error .refused

/-- What a run answers if it can write everywhere. -/
def plan (files : String → Option String) (arguments : List String) : Result :=
  match Arguments.parse arguments with
  | none => .ofFailure .usage
  | some (arguments, path) =>
    match infer files arguments path with
    | .error cause => .ofFailure cause
    | .ok (network, mode) =>
      ⟨0, report network mode, arguments.output.map fun path => (path, network.toJsonText)⟩

def runWith (files : String → Option String) (accepts : String → Bool) (arguments : List String) :
    Result :=
  (plan files arguments).settle accepts

/-- Parts of a path that lead to no new place, or back. -/
def isStep (part : List Char) : Bool :=
  part = [] || part = ['.'] || part = ['.', '.']

/-- Whether a path leads to a place for a file if there are no directories but the one it starts from
and those above it. -/
def writable (path : String) : Bool :=
  match (path.toList.splitOn '/').reverse with
  | [] => false
  | name :: steps => !isStep name && steps.all isStep

def run (files : String → Option String) (arguments : List String) : Result :=
  runWith files writable arguments

end ShapeFlow.CommandLine
