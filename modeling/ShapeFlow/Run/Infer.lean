import ShapeFlow.Engine.Propagator
import ShapeFlow.Run.Config

/-!
A run over a network with the engine of its mode.
-/

namespace ShapeFlow

namespace Network

def inferLegacy (network : Network) (registry : Registry) (overrides : Overrides) : Run :=
  let built := Reshaper.build network registry
  match built.outcome with
  | .error cause => ⟨network, built.entries, .error cause⟩
  | .ok reshaper =>
    let run := reshaper.run network overrides
    ⟨run.network, built.entries ++ run.journal.entries, run.journal.outcome⟩

/-- Pushes shapes through the network; a refused run leaves it as it was. -/
def inferTransactional (network : Network) (registry : Registry) (overrides : Overrides) : Run :=
  let inferred := propagateInto network registry overrides
  match inferred.outcome with
  | .error cause => ⟨network, inferred.entries, .error cause⟩
  | .ok network => ⟨network, inferred.entries, .ok ()⟩

def inferShapes (network : Network) (registry : Registry) (config : RunConfig) : Run :=
  let start : Entry := ⟨.info, "inferring shapes of '" ++ network.name ++ "' in " ++
    config.mode.text ++ " mode with " ++ Text.naturalText config.inputShapes.size ++
    " input override(s)"⟩
  let run := match config.mode with
    | .legacy => network.inferLegacy registry config.inputShapes
    | .transactional => network.inferTransactional registry config.inputShapes
  ⟨run.network, start :: run.journal.entries, run.journal.outcome⟩

end Network

end ShapeFlow
