import ShapeFlow.Engine.Reshaper
import ShapeFlow.Json.Reader
import ShapeFlow.Run.Mode

/-!
What a run is asked to do: its mode and the requested shapes, from a JSON text or from texts of the
form `NAME=DIMS`.
-/

namespace ShapeFlow

inductive ConfigError where
  | malformed
  | invalidShape (text : String)
  | invalidOverride (text : String)
  deriving DecidableEq

/-- The wording of an error; malformed JSON is reported without its place. -/
def ConfigError.message : ConfigError → String
  | .malformed => "Invalid run config"
  | .invalidShape text =>
    "Invalid shape '" ++ text ++ "': expected comma separated dimensions like 1,3,224,224"
  | .invalidOverride text => "Invalid shape override '" ++ text ++ "': expected NAME=DIMS"

/-- The dimensions of a comma separated text, with blanks around each of them. -/
def parseShape (text : String) : Except ConfigError Shape :=
  match (text.toList.splitOn ',').mapM fun item => Text.dim? (Text.trim item) with
  | some dims => .ok dims
  | none => .error (.invalidShape text)

/-- The name before the first equals sign, without the blanks around it, and the shape after it. -/
def parseOverride (text : String) : Except ConfigError (String × Shape) :=
  match text.toList.span (· != '=') with
  | (_, []) => .error (.invalidOverride text)
  | (before, _ :: after) =>
    let name := Text.trim before
    if name.isEmpty then .error (.invalidOverride text)
    else do
      let shape ← parseShape (String.ofList after)
      .ok (String.ofList name, shape)

structure RunConfig where
  mode : Mode
  inputShapes : Overrides
  deriving DecidableEq

namespace RunConfig

def default : RunConfig := ⟨.legacy, .empty⟩

def modeOfName? : String → Option Mode
  | "legacy" => some .legacy
  | "transactional" => some .transactional
  | _ => none

/-- A mode is its name, or an object with null under its name. -/
def mode? : Json → Option Mode
  | .string name => name >>= modeOfName?
  | .object [(name, .null)] => name >>= modeOfName?
  | _ => none

def ofJson? (json : Json) : Option RunConfig := do
  let fields ← json.fields? ["mode", "input_shapes"]
  let mode ← Json.optional fields "mode" .legacy mode?
  let shapes ← Json.optional fields "input_shapes" .empty (Json.dictionary? Json.shape?)
  some ⟨mode, shapes⟩

def parse (text : String) : Except ConfigError RunConfig :=
  match Json.read? text >>= ofJson? with
  | some config => .ok config
  | none => .error .malformed

end RunConfig

end ShapeFlow
