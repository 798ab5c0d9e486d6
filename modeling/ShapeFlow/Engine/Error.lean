import ShapeFlow.Network.Error
import ShapeFlow.Rule.Basic

/-!
Why shape inference over a network is refused.
-/

namespace ShapeFlow

inductive Status where
  | generalError
  | notFound
  | parameterMismatch
  | unexpected
  deriving DecidableEq

inductive Role where
  | input
  | intermediate
  deriving DecidableEq

def Role.text : Role → String
  | .input => "input. Supported input types: Input, Const and Memory(with index=1)"
  | .intermediate => "an intermediate layer in the network"

inductive EngineError where
  | network (cause : NetworkError)
  | unsupportedModel (reason : String)
  | duplicateType (types : List String)
  | roleViolation (layer typeName : String) (role : Role)
  | notFound (typeName : String)
  | implementationNotFound (typeName : String)
  | shapeCountMismatch (layer : String) (expected actual : Nat)
  | invalidInputPorts (layer : String) (count : Nat)
  | launcherNotFound (layer : String)
  | layerNotFound (layer : String)
  | portNotFound (layer port : String)
  | shapeNotComputed (layer : String) (port : Nat)
  | networkNotBound
  | invalidParameter (layer name reason : String)
  | inference (layer : String) (cause : RuleError)
  deriving DecidableEq

namespace EngineError

open Text in
def message : EngineError → String
  | .network cause => "Graph error: " ++ cause.message
  | .unsupportedModel reason => "Unsupported model for shape inference: " ++ reason
  | .duplicateType types =>
    "Failed to add extension with already registered types: " ++ String.intercalate ", " types
  | .roleViolation layer typeName role =>
    "Failed to reshape: layer '" ++ layer ++ "' with type `" ++ typeName ++ "` can't be " ++
      role.text
  | .notFound typeName => "Shape infer implementation was not found for type " ++ typeName
  | .implementationNotFound typeName =>
    "Extension lists type `" ++ typeName ++ "` but provides no shape infer implementation for it"
  | .shapeCountMismatch layer expected actual =>
    "Layer '" ++ layer ++ "' has " ++ naturalText expected ++
      " output port(s), but shape inference returned " ++ naturalText actual ++ " shape(s)"
  | .invalidInputPorts layer count =>
    "Input layer '" ++ layer ++ "' has " ++ naturalText count ++
      " output ports; input layers can have only one output port"
  | .launcherNotFound layer =>
    "Failed to reshape layer '" ++ layer ++ "': can't find the corresponding launcher"
  | .layerNotFound layer => "Layer '" ++ layer ++ "' is not part of the network being reshaped"
  | .portNotFound layer port => "Layer '" ++ layer ++ "' has no port '" ++ port ++ "'"
  | .shapeNotComputed layer port =>
    "Output " ++ naturalText port ++ " of layer '" ++ layer ++
      "' was read before its shape was computed"
  | .networkNotBound => "Cannot infer shapes! Network is not bound"
  | .invalidParameter layer name reason =>
    "Invalid parameter '" ++ name ++ "' of layer '" ++ layer ++ "': " ++ reason
  | .inference layer cause =>
    "Failed to infer shapes for layer '" ++ layer ++ "': " ++ cause.message

def status : EngineError → Status
  | .notFound _ | .implementationNotFound _ => .notFound
  | .invalidParameter .. => .parameterMismatch
  | .launcherNotFound _ | .shapeNotComputed .. => .unexpected
  | _ => .generalError

/-- The outcome of an operation on a network as that of a step of the engine. -/
def ofNetwork {α : Type} : Except NetworkError α → Except EngineError α
  | .ok value => .ok value
  | .error cause => .error (.network cause)

theorem ofNetwork_eq_ok_iff {α : Type} {outcome : Except NetworkError α} {value : α} :
    ofNetwork outcome = .ok value ↔ outcome = .ok value := by
  cases outcome <;> simp [ofNetwork]

end EngineError

end ShapeFlow
