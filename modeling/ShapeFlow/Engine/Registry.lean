import ShapeFlow.Engine.Error
import ShapeFlow.Journal
import ShapeFlow.Rule.BuiltIn
import ShapeFlow.Table
import ShapeFlow.Text.Quoted

/-!
Registries of rules by layer type, and extensions that bring further rules. Types are compared
without regard to case; an extension is accepted as a whole or not at all.
-/

namespace ShapeFlow

/-- Rules supplied together: the types they are for, and the rule of each. -/
structure Extension where
  types : List String
  rule? : String → Option Rule

namespace Extension

def builtIn : Extension := ⟨Rule.builtInTypes, Rule.builtIn?⟩

/-- The types of an extension, each in its first spelling. -/
def distinctTypes (extension : Extension) : List String :=
  ((extension.types.foldl (fun (seen : Table Caseless.Key Unit) typeName =>
    if seen.contains ⟨typeName⟩ then seen else seen.insert ⟨typeName⟩ ()) .empty).keys).map
      Caseless.Key.spelling

/-- The rules of the given types, or the first type without one. -/
def resolve (extension : Extension) : List String → Except EngineError (List (String × Rule))
  | [] => .ok []
  | typeName :: rest =>
    match extension.rule? typeName with
    | none => .error (.implementationNotFound typeName)
    | some rule => do
      let resolved ← extension.resolve rest
      .ok ((typeName, rule) :: resolved)

end Extension

def describeTypes (container : String) (types : List String) : String :=
  container ++ " \x7b types: [" ++ String.intercalate ", " (types.map Text.quoted) ++ "] \x7d"

/-- An extension that is filled one rule at a time; a later rule for a type replaces the earlier. -/
structure ExtensionSet where
  rules : Table Caseless.Key Rule

namespace ExtensionSet

def empty : ExtensionSet := ⟨.empty⟩

def insert (set : ExtensionSet) (typeName : String) (rule : Rule) : ExtensionSet :=
  ⟨set.rules.insert ⟨typeName⟩ rule⟩

def types (set : ExtensionSet) : List String :=
  set.rules.keys.map Caseless.Key.spelling

def toExtension (set : ExtensionSet) : Extension :=
  ⟨set.types, fun typeName => set.rules.get? ⟨typeName⟩⟩

def describe (set : ExtensionSet) : String :=
  describeTypes "ExtensionSet" set.types

end ExtensionSet

structure Registry where
  rules : Table Caseless.Key Rule

namespace Registry

def empty : Registry := ⟨.empty⟩

def get? (registry : Registry) (typeName : String) : Option Rule :=
  registry.rules.get? ⟨typeName⟩

def contains (registry : Registry) (typeName : String) : Bool :=
  registry.rules.contains ⟨typeName⟩

def insert (registry : Registry) (typeName : String) (rule : Rule) : Registry :=
  ⟨registry.rules.insert ⟨typeName⟩ rule⟩

def builtIn : Registry :=
  Rule.builtInTypes.foldl (fun registry typeName =>
    match Rule.builtIn? typeName with
    | some rule => registry.insert typeName rule
    | none => registry) empty

def lookup (registry : Registry) (typeName : String) : Except EngineError Rule :=
  match registry.get? typeName with
  | some rule => .ok rule
  | none => .error (.notFound typeName)

/-- Adds a rule for a type that has none yet; otherwise the registered spelling is reported. -/
def register (registry : Registry) (typeName : String) (rule : Rule) :
    Except EngineError Registry :=
  match registry.rules.find? ⟨typeName⟩ with
  | some entry => .error (.duplicateType [entry.1.spelling])
  | none => .ok (registry.insert typeName rule)

/-- Adds all rules of an extension, and returns its types with the registry. -/
def addExtension (registry : Registry) (extension : Extension) :
    Journal EngineError (List String × Registry) := do
  let types := extension.distinctTypes
  let conflicts := types.filter registry.contains
  if !conflicts.isEmpty then Journal.refuse (.duplicateType conflicts)
  else
    let resolved ← extension.resolve types
    Journal.note .info ("registered shape infer extension with types: " ++
      String.intercalate ", " types)
    pure (types, resolved.foldl (fun registry entry => registry.insert entry.1 entry.2) registry)

def types (registry : Registry) : List String :=
  (registry.rules.keys.map Caseless.Key.spelling).mergeSort

def size (registry : Registry) : Nat :=
  registry.rules.size

def isEmpty (registry : Registry) : Bool :=
  registry.rules.isEmpty

def describe (registry : Registry) : String :=
  describeTypes "ShapeInferRegistry" registry.types

end Registry

end ShapeFlow
