import ShapeFlow.Caseless

/-!
The engine a run uses, by name.
-/

namespace ShapeFlow

inductive Mode where
  | legacy
  | transactional
  deriving DecidableEq

def Mode.text : Mode → String
  | .legacy => "legacy"
  | .transactional => "transactional"

/-- The mode of a name in any case; the message for another name shows it in lower case. -/
def Mode.parse (name : String) : Except String Mode :=
  match Caseless.lower name with
  | "legacy" => .ok .legacy
  | "transactional" | "clone" => .ok .transactional
  | other =>
    .error ("unknown propagation mode '" ++ other ++ "' (expected legacy or transactional)")

end ShapeFlow
