import ShapeFlow.Engine.Error
import ShapeFlow.Journal
import ShapeFlow.Network.Basic
import ShapeFlow.Table

/-!
Launchers compute the shapes of one layer each. A launcher keeps what was declared when it was made
and collects new shapes beside it; the layer itself is changed only at the end, when the shapes are
applied. Launchers find the shapes of their inputs through a set of launchers by layer name.
-/

namespace ShapeFlow

inductive LauncherKind where
  | ordinary (rule : Rule)
  | input
  | constant
  | memoryOutput
  | passThrough

def LauncherKind.name : LauncherKind → String
  | .ordinary _ => "ordinary"
  | .input => "input"
  | .constant => "constant"
  | .memoryOutput => "memory-output"
  | .passThrough => "pass-through"

/-- The output port that feeds an input port, by layer name. -/
structure Source where
  layer : String
  port : Nat
  deriving DecidableEq

/-- The sources of the input ports of a layer; none for a port that nothing feeds. -/
def resolveSources (layer : Layer) (network : Network) :
    Except NetworkError (List (Option Source)) :=
  (List.range layer.inputs.length).mapM fun port =>
    match network.producerOf? ⟨layer.id, port⟩ with
    | none => .ok none
    | some producer => do
      let feeding ← network.layer producer.layer
      .ok (some ⟨feeding.name, producer.port⟩)

structure Launcher where
  layerName : String
  layerType : String
  kind : LauncherKind
  params : Params
  blobs : Blobs
  sources : List (Option Source)
  outputNames : List String
  declaredInputs : List Shape
  declaredOutputs : List Shape
  inShapes : Option (List Shape)
  outShapes : List (Option Shape)

namespace Launcher

/-- The first blob of a constant layer decides the shape of its first output. -/
def declare (layer : Layer) : LauncherKind → List Shape
  | .constant =>
    match layer.blobs.values, layer.outputShapes with
    | blob :: _, _ :: rest => blob.dims :: rest
    | _, outputs => outputs
  | _ => layer.outputShapes

def ofLayer (layer : Layer) (network : Network) (kind : LauncherKind) :
    Except EngineError Launcher := do
  let sources ← EngineError.ofNetwork (resolveSources layer network)
  .ok {
    layerName := layer.name
    layerType := layer.typeName
    kind := kind
    params := layer.params
    blobs := layer.blobs
    sources := sources
    outputNames := layer.outputs.map Port.name
    declaredInputs := layer.inputShapes
    declaredOutputs := declare layer kind
    inShapes := none
    outShapes := List.replicate (declare layer kind).length none }

def hasType (launcher : Launcher) (typeName : String) : Bool :=
  Caseless.eq launcher.layerType typeName

/-- Forgets all shapes that were not declared. -/
def reset (launcher : Launcher) : Launcher :=
  { launcher with inShapes := none, outShapes := launcher.outShapes.map fun _ => none }

/-- A fresh launcher for the same layer with a rule of its own. -/
def rebind (launcher : Launcher) (rule : Rule) : Launcher :=
  { launcher with kind := .ordinary rule }.reset

def checkLayer (launcher : Launcher) (layer : Layer) (network : Network) :
    Except EngineError Unit := do
  let mismatch : EngineError := .unsupportedModel ("layer '" ++ launcher.layerName ++
    "' does not match the network the reshaper was built for")
  if layer.name = launcher.layerName ∧ layer.inputs.length = launcher.sources.length ∧
      layer.outputs.map Port.name = launcher.outputNames then
    let sources ← EngineError.ofNetwork (resolveSources layer network)
    if sources = launcher.sources then .ok () else .error mismatch
  else .error mismatch

def outputIndex (launcher : Launcher) (portName : String) : Except EngineError Nat :=
  match launcher.outputNames.findIdx? (· == portName) with
  | some index => .ok index
  | none => .error (.portNotFound launcher.layerName portName)

/-- Requests a shape for an output. The shape of a constant is not open to requests. -/
def setShape (launcher : Launcher) (shape : Shape) (portName : String) :
    Journal EngineError Launcher := do
  let index ← launcher.outputIndex portName
  match launcher.kind with
  | .constant =>
    Journal.note .warn ("ignoring shape " ++ shape.text ++ " requested for constant layer '" ++
      launcher.layerName ++ "'; constant shape is " ++
      ((launcher.declaredOutputs[index]?).getD []).text)
    pure launcher
  | _ => pure { launcher with outShapes := launcher.outShapes.set index (some shape) }

def setDeclaredShape (launcher : Launcher) (portName : String) : Except EngineError Launcher := do
  let index ← launcher.outputIndex portName
  .ok { launcher with outShapes := launcher.outShapes.set index launcher.declaredOutputs[index]? }

/-- The shape of an output. Launchers that compute shapes have none before they have run; the others
fall back to what was declared. -/
def outputShape (launcher : Launcher) (port : Nat) : Except EngineError Shape :=
  match launcher.declaredOutputs[port]? with
  | none => .error (.portNotFound launcher.layerName ("#" ++ Text.naturalText port))
  | some declared =>
    match launcher.outShapes[port]?.join, launcher.kind with
    | some shape, _ => .ok shape
    | none, .ordinary _ | none, .input => .error (.shapeNotComputed launcher.layerName port)
    | none, _ => .ok declared

/-- Computes the output shapes of an ordinary launcher; all but pass-through launchers remember the
input shapes. -/
def reshape (launcher : Launcher) (inputs : List Shape) : Except EngineError Launcher :=
  match launcher.kind with
  | .ordinary rule =>
    match rule inputs launcher.params launcher.blobs with
    | .error cause => .error (.inference launcher.layerName cause)
    | .ok outputs =>
      if outputs.length = launcher.declaredOutputs.length then
        .ok { launcher with outShapes := outputs.map some, inShapes := some inputs }
      else
        .error (.shapeCountMismatch launcher.layerName launcher.declaredOutputs.length
          outputs.length)
  | .passThrough => .ok launcher
  | _ => .ok { launcher with inShapes := some inputs }

def applyChanges (launcher : Launcher) (layer : Layer) : Except EngineError Layer :=
  match launcher.kind with
  | .passThrough => .ok layer
  | _ =>
    if layer.name ≠ launcher.layerName ∨ layer.outputs.length ≠ launcher.outShapes.length then
      .error (.layerNotFound launcher.layerName)
    else do
      let outputs ← (List.range launcher.outShapes.length).mapM launcher.outputShape
      .ok { layer with
        inputs := setShapes layer.inputs (launcher.inShapes.getD [])
        outputs := setShapes layer.outputs outputs }

end Launcher

/-- Launchers in the order in which their layers were first inserted, with their places by name. -/
structure LauncherSet where
  launchers : List Launcher
  index : Table String Nat

namespace LauncherSet

def empty : LauncherSet := ⟨[], .empty⟩

/-- Stores a launcher, in the place of an earlier one for the same layer. -/
def insert (set : LauncherSet) (launcher : Launcher) : LauncherSet :=
  match set.index.get? launcher.layerName with
  | some slot => { set with launchers := set.launchers.set slot launcher }
  | none => ⟨set.launchers ++ [launcher],
      set.index.insert launcher.layerName set.launchers.length⟩

def get (set : LauncherSet) (layerName : String) : Except EngineError Launcher :=
  match set.index.get? layerName >>= fun slot => set.launchers[slot]? with
  | some launcher => .ok launcher
  | none => .error (.launcherNotFound layerName)

def reset (set : LauncherSet) : LauncherSet :=
  { set with launchers := set.launchers.map Launcher.reset }

def size (set : LauncherSet) : Nat :=
  set.launchers.length

end LauncherSet

/-- The shapes at the inputs of a launcher: those of the sources, or the declared ones. -/
def Launcher.inputShapes (launcher : Launcher) (set : LauncherSet) :
    Except EngineError (List Shape) :=
  (launcher.sources.zip launcher.declaredInputs).mapM fun pair =>
    match pair.1 with
    | none => .ok pair.2
    | some source => do
      let feeding ← set.get source.layer
      feeding.outputShape source.port

def LauncherSet.reshape (set : LauncherSet) (layerName : String) :
    Except EngineError LauncherSet := do
  let launcher ← set.get layerName
  let inputs ← launcher.inputShapes set
  let launcher ← launcher.reshape inputs
  .ok (set.insert launcher)

end ShapeFlow
