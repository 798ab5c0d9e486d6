import ShapeFlow.Engine.Reshaper
import ShapeFlow.Network.Snapshot

/-!
The engine that pushes shapes: it works on a snapshot of the network, hands every output shape to
the inputs it feeds, and writes the snapshot back once all layers are done.
-/

namespace ShapeFlow

namespace Propagator

/-- Gives a layer the shape requested under its name. Constants keep theirs; a layer needs a single
output port for it. -/
def seedLayer (overrides : Overrides) (scratch : List LayerShapes) (layer : Layer) :
    Except EngineError (List LayerShapes) :=
  match overrides.get? layer.name with
  | none => .ok scratch
  | some shape =>
    if layer.isType "const" then .ok scratch
    else if layer.outputs.length ≠ 1 then
      .error (.invalidInputPorts layer.name layer.outputs.length)
    else
      .ok (scratch.modify layer.id fun shapes =>
        { shapes with outputs := shapes.outputs.set 0 shape })

def seed (network : Network) (overrides : Overrides) : Except EngineError (List LayerShapes) :=
  network.layers.foldlM (seedLayer overrides) network.snapshot

/-- Hands the shape of an output to the inputs it feeds. -/
def feed (network : Network) (id : LayerId) (scratch : List LayerShapes) (output : Nat × Shape) :
    List LayerShapes :=
  (network.consumersOf ⟨id, output.1⟩).foldl (fun scratch consumer =>
    scratch.modify consumer.layer fun shapes =>
      { shapes with inputs := shapes.inputs.set consumer.port output.2 }) scratch

/-- The shapes a rule is given: those at the inputs, or of a layer without inputs its own outputs.
-/
def ruleInputs (layer : Layer) (shapes : LayerShapes) : List Shape :=
  if layer.inputs.isEmpty then shapes.outputs else shapes.inputs

/-- The output shapes of a layer by its rule, one for each output port. -/
def inferLayer (registry : Registry) (layer : Layer) (shapes : LayerShapes) :
    Except EngineError (List Shape) := do
  let rule ← registry.lookup layer.typeName
  match rule (ruleInputs layer shapes) layer.params layer.blobs with
  | .error cause => .error (.inference layer.name cause)
  | .ok outputs =>
    if outputs.length = layer.outputs.length then .ok outputs
    else .error (.shapeCountMismatch layer.name layer.outputs.length outputs.length)

def step (network : Network) (registry : Registry) (scratch : List LayerShapes) (id : LayerId) :
    Journal EngineError (List LayerShapes) := do
  let layer ← EngineError.ofNetwork (network.layer id)
  let outputs ← inferLayer registry layer (scratch[id]?.getD ⟨[], []⟩)
  let scratch := ((List.range outputs.length).zip outputs).foldl (feed network id) scratch
  Journal.note .debug ("propagated '" ++ layer.name ++ "': " ++ shapesText outputs)
  pure (scratch.modify id fun shapes => { shapes with outputs := outputs })

end Propagator

def propagate (network : Network) (registry : Registry) (overrides : Overrides) :
    Journal EngineError (List LayerShapes) := do
  let scratch ← Propagator.seed network overrides
  let order ← EngineError.ofNetwork network.topologicalOrder
  order.foldlM (Propagator.step network registry) scratch

def propagateInto (network : Network) (registry : Registry) (overrides : Overrides) :
    Journal EngineError Network := do
  let shapes ← propagate network registry overrides
  let network ← EngineError.ofNetwork (network.applyShapes shapes)
  Journal.note .debug ("committed propagated shapes to '" ++ network.name ++ "'")
  pure network

/-- A registry with the network that is to be inferred, if one is bound. -/
structure Propagator where
  registry : Registry
  network : Option Network

namespace Propagator

def ofRegistry (registry : Registry) : Propagator := ⟨registry, none⟩

def bind (propagator : Propagator) (network : Network) : Propagator :=
  { propagator with network := some network }

def unbind (propagator : Propagator) : Option Network × Propagator :=
  (propagator.network, { propagator with network := none })

def isBound (propagator : Propagator) : Bool :=
  propagator.network.isSome

def addExtension (propagator : Propagator) (extension : Extension) :
    Journal EngineError Propagator := do
  let (_, registry) ← propagator.registry.addExtension extension
  pure { propagator with registry := registry }

def run (propagator : Propagator) (overrides : Overrides) : Journal EngineError Propagator :=
  match propagator.network with
  | none => Journal.refuse .networkNotBound
  | some network => do
    let network ← propagateInto network propagator.registry overrides
    pure (propagator.bind network)

end Propagator

end ShapeFlow
