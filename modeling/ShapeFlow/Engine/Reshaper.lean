import ShapeFlow.Engine.Role
import ShapeFlow.Network.Order

/-!
The engine that pulls shapes: every layer has a launcher, which asks the launchers of its sources
for their shapes. A run computes all shapes on a copy of the launchers before it writes any of them
to the network.
-/

namespace ShapeFlow

abbrev Overrides := Dictionary Shape

/-- What a run leaves behind: the network, and how the run ended. -/
structure Run where
  network : Network
  journal : Journal EngineError Unit

structure Reshaper where
  registry : Registry
  inputLayers : List String
  sortedLayers : List String
  launchers : LauncherSet

namespace Reshaper

/-- The launcher of a layer, by whether the layer is an input of the network. -/
def launcherFor (network : Network) (registry : Registry) (inputs : List LayerId) (id : LayerId) :
    Journal EngineError Launcher := do
  let layer ← EngineError.ofNetwork (network.layer id)
  if id ∈ inputs then layer.inputLauncher network
  else layer.interiorLauncher network registry

def build (network : Network) (registry : Registry) : Journal EngineError Reshaper := do
  let inputs := network.inputLayers
  let order ← (match network.topologicalOrder with
    | .ok order => .ok order
    | .error cause => .error (.unsupportedModel cause.message) : Except EngineError (List LayerId))
  if inputs.isEmpty || order.isEmpty then
    Journal.refuse (.unsupportedModel "failed to collect inputs and layers")
  else
    let launchers ← order.mapM (launcherFor network registry inputs)
    let names ← inputs.mapM fun id => do
      let layer ← EngineError.ofNetwork (network.layer id)
      (pure layer.name : Except EngineError String)
    let sorted := launchers.map Launcher.layerName
    Journal.note .debug ("reshaper built for '" ++ network.name ++ "': " ++
      Text.naturalText sorted.length ++ " layers, inputs [" ++ String.intercalate ", " names ++ "]")
    pure ⟨registry, names, sorted, launchers.foldl LauncherSet.insert .empty⟩

/-- Gives the rule of a new type to every launcher of that type. -/
def rebindType (reshaper : Reshaper) (typeName : String) : Journal EngineError Reshaper := do
  let rule ← reshaper.registry.lookup typeName
  let rebound := (reshaper.launchers.launchers.filter (·.hasType typeName)).map (·.rebind rule)
  rebound.foldlM (fun reshaper launcher => do
    Journal.note .debug ("layer '" ++ launcher.layerName ++ "' rebound to extension type `" ++
      typeName ++ "`")
    pure { reshaper with launchers := reshaper.launchers.insert launcher }) reshaper

def addExtension (reshaper : Reshaper) (extension : Extension) : Journal EngineError Reshaper := do
  let (added, registry) ← reshaper.registry.addExtension extension
  added.foldlM rebindType { reshaper with registry := registry }

def findLayer (network : Network) (name : String) : Except EngineError LayerId :=
  match network.layerId name with
  | .ok id => .ok id
  | .error _ => .error (.layerNotFound name)

/-- The sorted layers with their ids in a network of the same structure. -/
def locate (reshaper : Reshaper) (network : Network) :
    Except EngineError (List (String × LayerId)) := do
  let located ← reshaper.sortedLayers.mapM fun name => do
    let id ← findLayer network name
    (.ok (name, id) : Except EngineError (String × LayerId))
  located.forM fun entry => do
    let launcher ← reshaper.launchers.get entry.1
    let layer ← EngineError.ofNetwork (network.layer entry.2)
    launcher.checkLayer layer network
  .ok located

/-- Gives an output of an input layer the requested shape for its port, or the declared one. -/
def seedPort (overrides : Overrides) (launcher : Launcher) (port : Port) :
    Journal EngineError Launcher :=
  match overrides.get? port.name with
  | some shape => launcher.setShape shape port.name
  | none => launcher.setDeclaredShape port.name

def seedLayer (network : Network) (overrides : Overrides) (set : LauncherSet) (name : String) :
    Journal EngineError LauncherSet := do
  let id ← findLayer network name
  let launcher ← set.get name
  let layer ← EngineError.ofNetwork (network.layer id)
  let launcher ← layer.outputs.foldlM (seedPort overrides) launcher
  pure (set.insert launcher)

/-- Shapes of the first outputs of a launcher as they are recorded. -/
def outputsText (launcher : Launcher) (count : Nat) : String :=
  "[" ++ String.intercalate ", " ((List.range count).map fun port =>
    match launcher.outputShape port with
    | .ok shape => shape.text
    | .error _ => "?") ++ "]"

def step (network : Network) (set : LauncherSet) (entry : String × LayerId) :
    Journal EngineError LauncherSet := do
  let set ← set.reshape entry.1
  let launcher ← set.get entry.1
  let layer ← EngineError.ofNetwork (network.layer entry.2)
  Journal.note .debug ("reshaped '" ++ entry.1 ++ "' (" ++ launcher.kind.name ++ "): " ++
    outputsText launcher layer.outputs.length)
  pure set

def compute (reshaper : Reshaper) (network : Network) (overrides : Overrides) :
    Journal EngineError (List (String × LayerId) × LauncherSet) := do
  let located ← reshaper.locate network
  let seeded ← reshaper.inputLayers.foldlM (seedLayer network overrides) reshaper.launchers.reset
  let computed ← located.foldlM (step network) seeded
  pure (located, computed)

def writeLayer (set : LauncherSet) (network : Network) (entry : String × LayerId) :
    Except EngineError Network := do
  let launcher ← set.get entry.1
  let layer ← EngineError.ofNetwork (network.layer entry.2)
  let changed ← launcher.applyChanges layer
  EngineError.ofNetwork (network.modifyLayer entry.2 fun _ => changed)

/-- Writes the shapes layer by layer; where one is refused, the layers before it stay written. -/
def writeBack (set : LauncherSet) (network : Network) :
    List (String × LayerId) → Network × Except EngineError Unit
  | [] => (network, .ok ())
  | entry :: rest =>
    match writeLayer set network entry with
    | .ok written => writeBack set written rest
    | .error cause => (network, .error cause)

/-- Infers the shapes of a network of the structure the reshaper was made for. The reshaper itself
is left as it is. -/
def run (reshaper : Reshaper) (network : Network) (overrides : Overrides) : Run :=
  let computed := reshaper.compute network overrides
  match computed.outcome with
  | .error cause => ⟨network, computed.entries, .error cause⟩
  | .ok (located, set) =>
    let written := writeBack set network located
    ⟨written.1, computed.entries, written.2⟩

def launcher (reshaper : Reshaper) (layerName : String) : Except EngineError Launcher :=
  reshaper.launchers.get layerName

end Reshaper

end ShapeFlow
