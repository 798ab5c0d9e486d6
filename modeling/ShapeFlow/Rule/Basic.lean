import ShapeFlow.Network.Layer
import ShapeFlow.Text.Numeral

/-!
Rules: functions from the input shapes of a layer, its parameters and its constant data to its
output shapes, and the reasons for which a rule refuses its inputs.
-/

namespace ShapeFlow

inductive RuleError where
  | inputCount (expected actual : Nat)
  | invalidRank (expected actual : Nat)
  | incompatibleShapes (op : String) (first second : Shape)
  | shapeTooSmall (op : String) (shape : Shape)
  | overflow (op : String) (shape : Shape)
  | missingParameter (name : String)
  | invalidParameter (name value : String)
  | custom (text : String)
  deriving DecidableEq

open Text in
def RuleError.message : RuleError → String
  | .inputCount expected actual =>
    "Expected " ++ naturalText expected ++ " input shape(s), got " ++ naturalText actual
  | .invalidRank expected actual =>
    "Invalid tensor rank: expected " ++ naturalText expected ++ "D, got " ++ naturalText actual ++
      "D"
  | .incompatibleShapes op first second =>
    "Incompatible shapes for operation '" ++ op ++ "': " ++ first.text ++ " and " ++ second.text
  | .shapeTooSmall op shape => "Input shape " ++ shape.text ++ " is too small for '" ++ op ++ "'"
  | .overflow op shape =>
    "Shape arithmetic overflows for '" ++ op ++ "' with input " ++ shape.text
  | .missingParameter name => "Required parameter '" ++ name ++ "' is missing"
  | .invalidParameter name value =>
    "Invalid value '" ++ value ++ "' for parameter '" ++ name ++ "'"
  | .custom text => text

abbrev Rule := List Shape → Params → Blobs → Except RuleError (List Shape)

namespace Rule

def firstInput (inputs : List Shape) : Except RuleError Shape :=
  match inputs with
  | [] => .error (.inputCount 1 0)
  | first :: _ => .ok first

def elementCount (op : String) (shape : Shape) : Except RuleError Dim :=
  match shape.elementCount? with
  | some count => .ok count
  | none => .error (.overflow op shape)

/-- An axis counted from the front, or from the back if negative. -/
def normalizeAxis? (axis : Int) (rank : Nat) : Option Nat :=
  let resolved := if axis < 0 then axis + rank else axis
  if 0 ≤ resolved ∧ resolved < rank then some resolved.toNat else none

end Rule

end ShapeFlow
