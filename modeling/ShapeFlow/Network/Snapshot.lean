import ShapeFlow.Network.Basic

/-!
Copies of all port shapes of a network. A snapshot is written back as a whole or not at all.
-/

namespace ShapeFlow

structure LayerShapes where
  inputs : List Shape
  outputs : List Shape
  deriving DecidableEq

namespace LayerShapes

def ofLayer (layer : Layer) : LayerShapes :=
  ⟨layer.inputShapes, layer.outputShapes⟩

def fits (shapes : LayerShapes) (layer : Layer) : Bool :=
  layer.inputs.length == shapes.inputs.length && layer.outputs.length == shapes.outputs.length

end LayerShapes

def Layer.setShapes (layer : Layer) (shapes : LayerShapes) : Layer :=
  { layer with
    inputs := ShapeFlow.setShapes layer.inputs shapes.inputs
    outputs := ShapeFlow.setShapes layer.outputs shapes.outputs }

namespace Network

def snapshot (network : Network) : List LayerShapes :=
  network.layers.map LayerShapes.ofLayer

/-- Writes a snapshot to the ports, after checking that it fits every layer. -/
def applyShapes (network : Network) (shapes : List LayerShapes) : Except NetworkError Network :=
  if shapes.length ≠ network.layers.length then
    .error (.snapshotMismatch (.layerCount network.layers.length shapes.length))
  else
    match (network.layers.zip shapes).find? fun pair => !pair.2.fits pair.1 with
    | some pair => .error (.snapshotMismatch (.portCount pair.1.name))
    | none => .ok { network with layers := network.layers.zipWith Layer.setShapes shapes }

end Network

end ShapeFlow
