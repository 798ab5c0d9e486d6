import ShapeFlow.Network.Layer
import ShapeFlow.Text.Numeral

/-!
Why an operation on a network is refused.
-/

namespace ShapeFlow

inductive PortDirection where
  | input
  | output
  deriving DecidableEq

def PortDirection.text : PortDirection → String
  | .input => "input"
  | .output => "output"

/-- How a snapshot of shapes differs from the network it is written to. -/
inductive Mismatch where
  | layerCount (expected actual : Nat)
  | portCount (layer : String)
  deriving DecidableEq

def Mismatch.text : Mismatch → String
  | .layerCount expected actual =>
    "expected " ++ Text.naturalText expected ++ " layers, got " ++ Text.naturalText actual
  | .portCount layer => "port count differs for layer '" ++ layer ++ "'"

inductive NetworkError where
  | layerNotFound (id : LayerId)
  | layerNameNotFound (name : String)
  | duplicateLayerName (name : String)
  | portNotFound (layer : String) (port : Nat) (direction : PortDirection)
  | portAlreadyConnected (layer : String) (port : Nat)
  | cycle (layer : String)
  | snapshotMismatch (reason : Mismatch)
  | invalidBlob (layer blob : String) (reason : TensorDefect)
  deriving DecidableEq

open Text in
def NetworkError.message : NetworkError → String
  | .layerNotFound id => "Layer with ID " ++ naturalText id ++ " not found"
  | .layerNameNotFound name => "Layer '" ++ name ++ "' not found"
  | .duplicateLayerName name => "Layer name '" ++ name ++ "' is already used in the network"
  | .portNotFound layer port direction =>
    "Layer '" ++ layer ++ "' has no " ++ direction.text ++ " port " ++ naturalText port
  | .portAlreadyConnected layer port =>
    "Input port " ++ naturalText port ++ " of layer '" ++ layer ++ "' already has a producer"
  | .cycle layer => "The network contains a cycle through layer '" ++ layer ++ "'"
  | .snapshotMismatch reason =>
    "Shape snapshot does not match the network: " ++ reason.text
  | .invalidBlob layer blob reason =>
    "Blob '" ++ blob ++ "' of layer '" ++ layer ++ "' is invalid: " ++ reason.text

end ShapeFlow
