import ShapeFlow.Rule.Parameter

/-!
Rules that hand on shapes unchanged: sources, layers that work element by element, and memory cells.
-/

namespace ShapeFlow.Rule

def source : Rule := fun inputs _ _ => .ok inputs

def identity : Rule := fun inputs _ _ => do
  .ok [← firstInput inputs]

/-- All inputs must have the shape of the first one. -/
def eltwise : Rule := fun inputs _ _ => do
  let first ← firstInput inputs
  match inputs.find? (· != first) with
  | some other => .error (.incompatibleShapes "Eltwise" first other)
  | none => .ok [first]

/-- A memory cell with index 0 is written and has no output, any other one hands on its input. -/
def memory : Rule := fun inputs params _ => do
  let index ← scalar? Text.integer? params "index" >>= required "index"
  if index = 0 then .ok [] else .ok [← firstInput inputs]

end ShapeFlow.Rule
