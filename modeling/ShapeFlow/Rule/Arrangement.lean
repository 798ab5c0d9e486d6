import ShapeFlow.Rule.Parameter

/-!
Rules that rearrange dimensions: joining inputs along an axis, mixing all features, reshaping to
other dimensions with the same number of elements, and permuting the axes.
-/

namespace ShapeFlow.Rule

/-- The two shapes agree on every axis but one. -/
def agreeOff (axis : Nat) (a b : Shape) : Bool :=
  a.length == b.length && a.eraseIdx axis == b.eraseIdx axis

def extend? (axis : Nat) (output shape : Shape) : Option Shape := do
  some (output.set axis (← Dim.add? (← output[axis]?) (← shape[axis]?)))

def join (axis : Nat) (first output shape : Shape) : Except RuleError Shape :=
  if agreeOff axis shape first then
    match extend? axis output shape with
    | some output => .ok output
    | none => .error (.overflow "Concat" shape)
  else .error (.incompatibleShapes "Concat" first shape)

def concat : Rule := fun inputs params _ => do
  let first ← firstInput inputs
  let axis := (← scalar? Text.integer? params "axis").getD 1
  match normalizeAxis? axis first.length with
  | none => .error (.invalidParameter "axis" (Text.integerText axis))
  | some axis => .ok [← inputs.tail.foldlM (join axis first) first]

def fullyConnected : Rule := fun inputs params _ => do
  let input ← firstInput inputs
  let size ← scalar? Text.dim? params "out-size" >>= required "out-size"
  match input with
  | [] => .error (.invalidRank 1 0)
  | batch :: _ => .ok [[batch, size]]

/-- The dimensions requested for an output, and the axis left to be inferred, which counts 1. A zero
copies the input's dimension on the same axis, -1 asks for inference. -/
def resolveDims (input : Shape) (axis : Nat) (inferred : Option Nat) :
    List Int → Option (List Dim × Option Nat)
  | [] => some ([], inferred)
  | request :: rest =>
    if request = -1 then
      if inferred.isSome then none
      else
        (resolveDims input (axis + 1) (some axis) rest).map fun (dims, found) => (1 :: dims, found)
    else do
      let dim ← if request = 0 then input[axis]? else
        if 0 < request then Dim.ofNat? request.toNat else none
      let (dims, found) ← resolveDims input (axis + 1) inferred rest
      some (dim :: dims, found)

def reshape : Rule := fun inputs params _ => do
  let input ← firstInput inputs
  let requests ← list? Text.integer? params "dim" >>= required "dim"
  match resolveDims input 0 none requests with
  | none => .error (invalid params "dim")
  | some (output, inferred) =>
    let total ← elementCount "Reshape" input
    let known ← elementCount "Reshape" output
    let mismatch : RuleError := .incompatibleShapes "Reshape" input output
    match inferred with
    | some axis =>
      if known = 0 ∨ total % known ≠ 0 then .error mismatch
      else .ok [output.set axis (total / known)]
    | none => if known ≠ total then .error mismatch else .ok [output]

/-- Every entry is an axis below the rank that has not been seen before. -/
def distinctBelow (rank : Nat) (seen : List Nat) : List Nat → Bool
  | [] => true
  | axis :: rest => axis < rank && !seen.contains axis && distinctBelow rank (axis :: seen) rest

def permute : Rule := fun inputs params _ => do
  let input ← firstInput inputs
  let order ← list? Text.dim? params "order" >>= required "order"
  let order := order.map UInt64.toNat
  if order.length = input.length ∧ distinctBelow input.length [] order then
    .ok [order.filterMap (input[·]?)]
  else .error (invalid params "order")

end ShapeFlow.Rule
