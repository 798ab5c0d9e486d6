import ShapeFlow.Network.Error
import ShapeFlow.Table

/-!
Networks of layers whose output ports feed input ports. The tables from names to layers, from inputs
to their producers and from outputs to their consumers are kept in step with the layers and
connections by the operations that add to the network; a refused operation returns no network.
-/

namespace ShapeFlow

structure Connection where
  source : PortRef
  target : PortRef
  deriving DecidableEq

structure Network where
  name : String
  layers : List Layer
  connections : List Connection
  names : Table String LayerId
  producers : Table PortRef PortRef
  consumers : Table PortRef (List PortRef)
  deriving DecidableEq

namespace Network

def empty (name : String) : Network :=
  ⟨name, [], [], .empty, .empty, .empty⟩

def layer (network : Network) (id : LayerId) : Except NetworkError Layer :=
  match network.layers[id]? with
  | some layer => .ok layer
  | none => .error (.layerNotFound id)

def nameOf (network : Network) (id : LayerId) : String :=
  (network.layers[id]?.map Layer.name).getD ""

def layerId (network : Network) (name : String) : Except NetworkError LayerId :=
  match network.names.get? name with
  | some id => .ok id
  | none => .error (.layerNameNotFound name)

def layerByName? (network : Network) (name : String) : Option Layer :=
  network.names.get? name >>= fun id => network.layers[id]?

/-- The input ports that an output port feeds, in the order in which they were connected. -/
def consumersOf (network : Network) (output : PortRef) : List PortRef :=
  (network.consumers.get? output).getD []

def producerOf? (network : Network) (input : PortRef) : Option PortRef :=
  network.producers.get? input

/-- Adds a layer under the next id, which is returned with the network. -/
def addLayer (network : Network) (layer : Layer) : Except NetworkError (LayerId × Network) :=
  if network.names.contains layer.name then .error (.duplicateLayerName layer.name)
  else
    let id := network.layers.length
    .ok (id, { network with
      layers := network.layers ++ [{ layer with id := id }]
      names := network.names.insert layer.name id })

/-- Lets an output port feed an input port that has no producer yet. -/
def connectPorts (network : Network) (source target : PortRef) : Except NetworkError Network := do
  let producer ← network.layer source.layer
  if producer.outputs.length ≤ source.port then
    .error (.portNotFound producer.name source.port .output)
  else
    let consumer ← network.layer target.layer
    if consumer.inputs.length ≤ target.port then
      .error (.portNotFound consumer.name target.port .input)
    else if network.producers.contains target then
      .error (.portAlreadyConnected consumer.name target.port)
    else
      .ok { network with
        connections := network.connections ++ [⟨source, target⟩]
        producers := network.producers.insert target source
        consumers := network.consumers.insert source (network.consumersOf source ++ [target]) }

def connect (network : Network) (source : String) (sourcePort : Nat) (target : String)
    (targetPort : Nat) : Except NetworkError Network := do
  let sourceId ← network.layerId source
  let targetId ← network.layerId target
  network.connectPorts ⟨sourceId, sourcePort⟩ ⟨targetId, targetPort⟩

/-- Changes a layer in place. The tables keep what they knew of it. -/
def modifyLayer (network : Network) (id : LayerId) (change : Layer → Layer) :
    Except NetworkError Network := do
  let layer ← network.layer id
  .ok { network with layers := network.layers.set id (change layer) }

def isInput (network : Network) (layer : Layer) : Bool :=
  layer.isNetworkInput || (List.range layer.inputs.length).all fun port =>
    !network.producers.contains ⟨layer.id, port⟩

/-- The layers flagged as inputs and those without a connected input port. -/
def inputLayers (network : Network) : List LayerId :=
  (network.layers.filter network.isInput).map Layer.id

def agrees (a b : Network) : Bool :=
  a.name == b.name && a.layers.length == b.layers.length &&
    ((a.layers.zip b.layers).all fun pair => pair.1.agrees pair.2) &&
    a.connections == b.connections && a.names == b.names && a.producers == b.producers &&
    a.consumers == b.consumers

end Network

end ShapeFlow
