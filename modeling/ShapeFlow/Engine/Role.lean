import ShapeFlow.Engine.Launcher
import ShapeFlow.Engine.Registry
import ShapeFlow.Text.Blank

/-!
The launcher that suits the role of a layer. Sources, constants and the read side of memory cells
start the graph; every other layer stands inside it.
-/

namespace ShapeFlow.Layer

inductive MemorySide where
  | write
  | read
  deriving DecidableEq

/-- The side of a memory cell: index 0 is written, any other index is read. -/
def memorySide (layer : Layer) : Except EngineError MemorySide :=
  match layer.params.get? "index" with
  | none => .error (.invalidParameter layer.name "index" "missing")
  | some raw =>
    match Text.integer? (Text.trim raw.toList) with
    | none => .error (.invalidParameter layer.name "index" ("'" ++ raw ++ "' is not an integer"))
    | some index => .ok (if index = 0 then .write else .read)

def refuseRole {α : Type} (layer : Layer) (role : Role) : Except EngineError α :=
  .error (.roleViolation layer.name layer.typeName role)

def inputKind (layer : Layer) : Except EngineError LauncherKind :=
  if layer.isType "memory" then do
    match ← layer.memorySide with
    | .read => .ok .input
    | .write => layer.refuseRole .input
  else if layer.isType "const" then .ok .constant
  else if layer.isType "input" then .ok .input
  else layer.refuseRole .input

/-- Refuses layers that can only be inputs of the network; of a memory cell the write side is left.
-/
def checkInterior (layer : Layer) : Except EngineError (Option MemorySide) := do
  let side ← if layer.isType "memory" then some <$> layer.memorySide else .ok none
  if side = some .read ∨ layer.isType "const" ∨ layer.isType "input" then
    layer.refuseRole .intermediate
  else .ok side

/-- The kind of launcher of a layer inside the network. A type without a rule is passed through. -/
def interiorKind (layer : Layer) (registry : Registry) : Journal EngineError LauncherKind := do
  let side ← layer.checkInterior
  match registry.get? layer.typeName with
  | some rule => pure (if side = some .write then .memoryOutput else .ordinary rule)
  | none =>
    Journal.note .warn ("no shape infer implementation for layer '" ++ layer.name ++
      "' of type `" ++ layer.typeName ++ "`; its shapes are left as declared")
    pure .passThrough

def inputLauncher (layer : Layer) (network : Network) : Except EngineError Launcher := do
  Launcher.ofLayer layer network (← layer.inputKind)

def interiorLauncher (layer : Layer) (network : Network) (registry : Registry) :
    Journal EngineError Launcher := do
  let kind ← layer.interiorKind registry
  Launcher.ofLayer layer network kind

end ShapeFlow.Layer
