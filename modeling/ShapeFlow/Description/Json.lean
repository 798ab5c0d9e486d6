import ShapeFlow.Description.Basic
import ShapeFlow.Json.Printer
import ShapeFlow.Json.Reader

/-!
Descriptions as JSON. Empty lists, empty dictionaries and a false flag of a layer are left out when
written; names, connections, ports of connections and data of blobs are always written.
-/

namespace ShapeFlow

namespace Json

def port? (json : Json) : Option Port := do
  let fields ← json.fields? ["name", "shape"]
  some ⟨← required fields "name" text?, ← required fields "shape" shape?⟩

def blob? (json : Json) : Option BlobDescription := do
  let fields ← json.fields? ["dims", "data"]
  some ⟨← required fields "dims" shape?,
    ← optional fields "data" none (nullable? (list? single?))⟩

def layer? (json : Json) : Option LayerDescription := do
  let fields ← json.fields?
    ["name", "type", "inputs", "outputs", "params", "blobs", "network_input"]
  some {
    name := ← required fields "name" text?
    typeName := ← required fields "type" text?
    inputs := ← optional fields "inputs" [] (list? port?)
    outputs := ← optional fields "outputs" [] (list? port?)
    params := ← optional fields "params" .empty (dictionary? text?)
    blobs := ← optional fields "blobs" .empty (dictionary? blob?)
    isNetworkInput := ← optional fields "network_input" false bool? }

def portNumber? (json : Json) : Option Nat :=
  json.dim?.map UInt64.toNat

def connection? (json : Json) : Option ConnectionDescription := do
  let fields ← json.fields? ["from", "from_port", "to", "to_port"]
  some {
    source := ← required fields "from" text?
    sourcePort := ← optional fields "from_port" 0 portNumber?
    target := ← required fields "to" text?
    targetPort := ← optional fields "to_port" 0 portNumber? }

def network? (json : Json) : Option NetworkDescription := do
  let fields ← json.fields? ["name", "layers", "connections"]
  some {
    name := ← optional fields "name" "" text?
    layers := ← required fields "layers" (list? layer?)
    connections := ← optional fields "connections" [] (list? connection?) }

def ofFields (fields : List (String × Json)) : Json :=
  .object (fields.map fun field => (some field.1, field.2))

def ofDictionary {α : Type} (ofValue : α → Json) (dictionary : Dictionary α) : Json :=
  ofFields (dictionary.entries.map fun entry => (entry.1, ofValue entry.2))

def ofPort (port : Port) : Json :=
  ofFields [("name", ofText port.name), ("shape", ofShape port.shape)]

/-- A number that is not finite is written as null. -/
def ofSingle (value : Binary.Single) : Json :=
  match NumberToken.ofSingle? value with
  | some token => .number token
  | none => .null

def ofBlob (blob : BlobDescription) : Json :=
  ofFields (("dims", ofShape blob.dims) :: match blob.data with
    | some values => [("data", .array (values.map ofSingle))]
    | none => [])

/-- A field that is left out if `absent`. -/
def fieldUnless (absent : Bool) (name : String) (value : Json) : List (String × Json) :=
  if absent then [] else [(name, value)]

def ofLayer (layer : LayerDescription) : Json :=
  ofFields ([("name", ofText layer.name), ("type", ofText layer.typeName)] ++
    fieldUnless layer.inputs.isEmpty "inputs" (.array (layer.inputs.map ofPort)) ++
    fieldUnless layer.outputs.isEmpty "outputs" (.array (layer.outputs.map ofPort)) ++
    fieldUnless layer.params.isEmpty "params" (ofDictionary ofText layer.params) ++
    fieldUnless layer.blobs.isEmpty "blobs" (ofDictionary ofBlob layer.blobs) ++
    fieldUnless (!layer.isNetworkInput) "network_input" (.bool true))

def ofConnection (connection : ConnectionDescription) : Json :=
  ofFields [("from", ofText connection.source), ("from_port", ofNat connection.sourcePort),
    ("to", ofText connection.target), ("to_port", ofNat connection.targetPort)]

def ofNetwork (network : NetworkDescription) : Json :=
  ofFields [("name", ofText network.name), ("layers", .array (network.layers.map ofLayer)),
    ("connections", .array (network.connections.map ofConnection))]

end Json

namespace Network

def parse (text : String) : Except DescriptionError Network :=
  match Json.read? text >>= Json.network? with
  | some description => description.toNetwork
  | none => .error .malformed

def toJsonText (network : Network) : String :=
  (Json.ofNetwork network.describe).pretty

end Network

end ShapeFlow
