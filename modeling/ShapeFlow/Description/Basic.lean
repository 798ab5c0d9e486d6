import ShapeFlow.Network.Basic

/-!
Descriptions of networks: layers in order and connections by layer name. A description becomes a
network unless a blob, a layer name or a connection is at fault; the first fault counts.
-/

namespace ShapeFlow

/-- Constant data without values is filled with zeros. -/
structure BlobDescription where
  dims : Shape
  data : Option (List Binary.Single)
  deriving DecidableEq

structure LayerDescription where
  name : String
  typeName : String
  inputs : List Port
  outputs : List Port
  params : Params
  blobs : Dictionary BlobDescription
  isNetworkInput : Bool
  deriving DecidableEq

structure ConnectionDescription where
  source : String
  sourcePort : Nat
  target : String
  targetPort : Nat
  deriving DecidableEq

structure NetworkDescription where
  name : String
  layers : List LayerDescription
  connections : List ConnectionDescription
  deriving DecidableEq

/-- Why a text or a description is not a network. A blob without data whose size cannot be counted
stops the reading altogether. -/
inductive DescriptionError where
  | malformed
  | network (cause : NetworkError)
  | uncountableBlob (layer blob : String)
  deriving DecidableEq

/-- The wording of an error; malformed JSON is reported without its place. -/
def DescriptionError.message : DescriptionError → String
  | .malformed => "JSON error"
  | .network cause => "Invalid network description: " ++ cause.message
  | .uncountableBlob layer blob => "Blob '" ++ blob ++ "' of layer '" ++ layer ++ "' is too large"

def BlobDescription.toTensor (blob : BlobDescription) (layer name : String) :
    Except DescriptionError Tensor :=
  match blob.data with
  | some values =>
    match Tensor.ofValues blob.dims values with
    | .ok tensor => .ok tensor
    | .error reason => .error (.network (.invalidBlob layer name reason))
  | none =>
    match Tensor.zeros? blob.dims with
    | some tensor => .ok tensor
    | none => .error (.uncountableBlob layer name)

namespace LayerDescription

def toBlobs (layer : LayerDescription) : Except DescriptionError Blobs :=
  layer.blobs.entries.foldlM (fun blobs entry => do
    let tensor ← entry.2.toTensor layer.name entry.1
    .ok (blobs.insert entry.1 tensor)) .empty

def toLayer (layer : LayerDescription) : Except DescriptionError Layer := do
  let blobs ← layer.toBlobs
  .ok ⟨0, layer.name, layer.typeName, layer.inputs, layer.outputs, layer.params, blobs,
    layer.isNetworkInput⟩

end LayerDescription

namespace NetworkDescription

def addLayer (network : Network) (layer : LayerDescription) : Except DescriptionError Network := do
  let layer ← layer.toLayer
  match network.addLayer layer with
  | .ok (_, network) => .ok network
  | .error cause => .error (.network cause)

def addConnection (network : Network) (connection : ConnectionDescription) :
    Except DescriptionError Network :=
  match network.connect connection.source connection.sourcePort connection.target
    connection.targetPort with
  | .ok network => .ok network
  | .error cause => .error (.network cause)

def toNetwork (description : NetworkDescription) : Except DescriptionError Network := do
  let network ← description.layers.foldlM addLayer (Network.empty description.name)
  description.connections.foldlM addConnection network

end NetworkDescription

namespace Network

def describeBlob (tensor : Tensor) : BlobDescription :=
  ⟨tensor.dims, some tensor.values⟩

def describeLayer (layer : Layer) : LayerDescription where
  name := layer.name
  typeName := layer.typeName
  inputs := layer.inputs
  outputs := layer.outputs
  params := layer.params
  blobs := layer.blobs.map describeBlob
  isNetworkInput := layer.isNetworkInput

def describeConnection (network : Network) (connection : Connection) : ConnectionDescription where
  source := network.nameOf connection.source.layer
  sourcePort := connection.source.port
  target := network.nameOf connection.target.layer
  targetPort := connection.target.port

def describe (network : Network) : NetworkDescription where
  name := network.name
  layers := network.layers.map describeLayer
  connections := network.connections.map network.describeConnection

end Network

end ShapeFlow
