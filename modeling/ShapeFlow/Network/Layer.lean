import ShapeFlow.Caseless
import ShapeFlow.Dictionary
import ShapeFlow.Tensor

/-!
Layers of a network: named ports with shapes, textual parameters and constant data.
-/

namespace ShapeFlow

abbrev Params := Dictionary String

abbrev Blobs := Dictionary Tensor

/-- The position of a layer in its network. -/
abbrev LayerId := Nat

structure Port where
  name : String
  shape : Shape
  deriving DecidableEq

/-- A port by its layer and its position among the inputs or outputs. -/
structure PortRef where
  layer : LayerId
  port : Nat
  deriving DecidableEq

structure Layer where
  id : LayerId
  name : String
  typeName : String
  inputs : List Port
  outputs : List Port
  params : Params
  blobs : Blobs
  /-- Counts the layer among the inputs of the network even if something feeds it. -/
  isNetworkInput : Bool
  deriving DecidableEq

namespace Layer

def isType (layer : Layer) (typeName : String) : Bool :=
  Caseless.eq layer.typeName typeName

def outputIndex? (layer : Layer) (portName : String) : Option Nat :=
  layer.outputs.findIdx? (·.name == portName)

def inputShapes (layer : Layer) : List Shape :=
  layer.inputs.map Port.shape

def outputShapes (layer : Layer) : List Shape :=
  layer.outputs.map Port.shape

def agrees (a b : Layer) : Bool :=
  a.id == b.id && a.name == b.name && a.typeName == b.typeName && a.inputs == b.inputs &&
    a.outputs == b.outputs && a.params == b.params && a.isNetworkInput == b.isNetworkInput &&
    a.blobs.entries.map Prod.fst == b.blobs.entries.map Prod.fst &&
    (a.blobs.values.zip b.blobs.values).all fun pair => pair.1.agrees pair.2

end Layer

/-- Gives shapes to the first ports; ports beyond the shapes keep theirs. -/
def setShapes : List Port → List Shape → List Port
  | port :: ports, shape :: shapes => { port with shape := shape } :: setShapes ports shapes
  | ports, _ => ports

end ShapeFlow
