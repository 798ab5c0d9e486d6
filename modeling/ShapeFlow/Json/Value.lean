import ShapeFlow.Json.Number
import ShapeFlow.Dictionary

/-!
JSON values, and the conversions by which the fields of a record are taken from one. A record is an
object with its fields by name or an array with its fields in order.
-/

namespace ShapeFlow

/-- A JSON value. A string with an escaped surrogate that lacks its partner denotes no text. -/
inductive Json where
  | null
  | bool (value : Bool)
  | number (token : NumberToken)
  | string (text : Option String)
  | array (items : List Json)
  | object (members : List (Option String × Json))

namespace Json

def ofText (text : String) : Json := .string (some text)

def ofNat (value : Nat) : Json := .number (.ofNat value)

def ofShape (shape : Shape) : Json := .array (shape.map fun dim => ofNat dim.toNat)

def text? : Json → Option String
  | .string text => text
  | _ => none

def bool? : Json → Option Bool
  | .bool value => some value
  | _ => none

def dim? : Json → Option Dim
  | .number token => token.dim?
  | _ => none

def single? : Json → Option Binary.Single
  | .number token => token.single?
  | _ => none

def list? {α : Type} (item? : Json → Option α) : Json → Option (List α)
  | .array items => items.mapM item?
  | _ => none

def shape? : Json → Option Shape := list? dim?

def nullable? {α : Type} (value? : Json → Option α) : Json → Option (Option α)
  | .null => some none
  | json => (value? json).map some

/-- A member of an object whose key denotes a text. -/
def member? {α : Type} (value? : Json → Option α) (member : Option String × Json) :
    Option (String × α) := do
  some (← member.1, ← value? member.2)

/-- An object with arbitrary keys; the last of several values for one key counts. -/
def dictionary? {α : Type} (value? : Json → Option α) : Json → Option (Dictionary α)
  | .object members => (members.mapM (member? value?)).map Dictionary.ofList
  | _ => none

/-- The fields of a record by name. A field may be given once only; others are ignored. -/
def fields? (names : List String) : Json → Option (List (String × Json))
  | .object members => do
    let members ← members.mapM (member? some)
    let known := members.filter fun member => names.contains member.1
    if (known.map Prod.fst).Nodup then some known else none
  | .array items => if items.length ≤ names.length then some (names.zip items) else none
  | _ => none

def required {α : Type} (fields : List (String × Json)) (name : String) (value? : Json → Option α) :
    Option α :=
  fields.lookup name >>= value?

def optional {α : Type} (fields : List (String × Json)) (name : String) (default : α)
    (value? : Json → Option α) : Option α :=
  match fields.lookup name with
  | none => some default
  | some json => value? json

end Json

end ShapeFlow
