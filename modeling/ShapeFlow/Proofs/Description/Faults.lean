import ShapeFlow.Proofs.Description.Records
import ShapeFlow.Proofs.Network.Built

/-!
What can be wrong with a description, and that nothing else keeps it from becoming a network. The
faults are conditions on the description as a whole, listed in the order of its parts; the checks made
against the network that is partly built come to the same conditions, and the first fault is the one
that is reported.
-/

namespace ShapeFlow

open Network (describeBlob describeLayer)

/-! ### The faults of a description -/

/-- Why dimensions and values do not make a tensor: a size that is too large, and another number of
values than the dimensions ask for. -/
def Tensor.defects (dims : Shape) (values : List Binary.Single) : List TensorDefect :=
  (if maxExtent < dims.extent then [.tooLarge] else []) ++
    ((if values.length < dims.volume then [.tooFewValues] else []) ++
      (if dims.volume < values.length then [.tooManyValues] else []))

namespace BlobDescription

/-- The blob with its values written out. -/
def filled (blob : BlobDescription) : BlobDescription :=
  { blob with data := some (blob.data.getD (List.replicate blob.dims.volume .zero)) }

def faults (blob : BlobDescription) (layer name : String) : List DescriptionError :=
  match blob.data with
  | none => if maxExtent < blob.dims.extent then [.uncountableBlob layer name] else []
  | some values => (Tensor.defects blob.dims values).map fun reason =>
      .network (.invalidBlob layer name reason)

end BlobDescription

namespace LayerDescription

def filled (layer : LayerDescription) : LayerDescription :=
  { layer with blobs := layer.blobs.map BlobDescription.filled }

def ports (layer : LayerDescription) : PortDirection → List Port
  | .input => layer.inputs
  | .output => layer.outputs

/-- The faults of the blobs, and a name that an earlier layer bears. -/
def faults (before : List LayerDescription) (layer : LayerDescription) : List DescriptionError :=
  (layer.blobs.entries.flatMap fun entry => entry.2.faults layer.name entry.1) ++
    if ∃ other ∈ before, other.name = layer.name then [.network (.duplicateLayerName layer.name)]
    else []

end LayerDescription

namespace ConnectionDescription

def nameFaults (layers : List LayerDescription) (name : String) : List NetworkError :=
  if ∃ layer ∈ layers, layer.name = name then [] else [.layerNameNotFound name]

def portFaults (layers : List LayerDescription) (name : String) (port : Nat)
    (direction : PortDirection) : List NetworkError :=
  if ∃ layer ∈ layers, layer.name = name ∧ (layer.ports direction).length ≤ port
  then [.portNotFound name port direction] else []

/-- Unknown layers, unknown ports, and a target that an earlier connection ends in. -/
def faults (layers : List LayerDescription) (before : List ConnectionDescription)
    (connection : ConnectionDescription) : List NetworkError :=
  nameFaults layers connection.source ++
    (nameFaults layers connection.target ++
      (portFaults layers connection.source connection.sourcePort .output ++
        (portFaults layers connection.target connection.targetPort .input ++
          if ∃ other ∈ before, other.target = connection.target ∧
            other.targetPort = connection.targetPort
          then [.portAlreadyConnected connection.target connection.targetPort] else [])))

end ConnectionDescription

namespace NetworkDescription

def filled (description : NetworkDescription) : NetworkDescription :=
  { description with layers := description.layers.map LayerDescription.filled }

/-- The faults of the layers, and then those of the connections. -/
def faults (description : NetworkDescription) : List DescriptionError :=
  faultsAfter LayerDescription.faults [] description.layers ++
    faultsAfter (fun before connection =>
      (connection.faults description.layers before).map .network) [] description.connections

end NetworkDescription

/-! ### Layers -/

theorem Tensor.decided_ofValues (dims : Shape) (values : List Binary.Single) :
    Decided (fun tensor => tensor.dims = dims ∧ tensor.values = values) (defects dims values)
      (ofValues dims values) := by
  unfold defects ofValues
  by_cases hextent : dims.extent ≤ maxExtent
  · by_cases hfew : values.length < dims.volume
    · rw [if_neg (Nat.not_lt.2 hextent), dif_pos hextent, if_pos hfew, if_pos hfew]
      exact .refused _ _
    · by_cases hlength : values.length = dims.volume
      · rw [if_neg (Nat.not_lt.2 hextent), dif_pos hextent, if_neg hfew, if_neg hfew, dif_pos hlength,
          if_neg (Nat.not_lt.2 (Nat.le_of_eq hlength))]
        exact .accepted ⟨rfl, rfl⟩
      · have hmany : dims.volume < values.length := by omega
        rw [if_neg (Nat.not_lt.2 hextent), dif_pos hextent, if_neg hfew, if_neg hfew,
          dif_neg hlength, if_pos hmany]
        exact .refused _ _
  · rw [if_pos (Nat.not_le.1 hextent), dif_neg hextent]
    exact .refused _ _

theorem BlobDescription.decided_toTensor (blob : BlobDescription) (layer name : String) :
    Decided (fun tensor => describeBlob tensor = blob.filled) (blob.faults layer name)
      (blob.toTensor layer name) := by
  rcases blob with ⟨dims, _ | values⟩
  · dsimp only [toTensor, faults, Tensor.zeros?]
    by_cases hextent : dims.extent ≤ maxExtent
    · rw [if_neg (Nat.not_lt.2 hextent), dif_pos hextent]
      exact .accepted rfl
    · rw [if_pos (Nat.not_le.1 hextent), dif_neg hextent]
      exact .refused _ _
  · have hdecided := Tensor.decided_ofValues dims values
    dsimp only [toTensor, faults]
    generalize Tensor.defects dims values = defects at hdecided ⊢
    generalize Tensor.ofValues dims values = made at hdecided ⊢
    cases hdecided with
    | refused reason others => exact .refused _ _
    | accepted htensor =>
      refine .accepted ?_
      rw [describeBlob, htensor.1, htensor.2]
      rfl

namespace Dictionary

variable {ν : Type} {dictionary other : Dictionary ν}

theorem eq_of_entries (h : dictionary.entries = other.entries) : dictionary = other := by
  cases dictionary
  cases other
  cases h
  rfl

/-- A key beyond all others comes last. -/
theorem entries_insert {key : String} (h : ∀ earlier ∈ dictionary.entries.map Prod.fst, earlier < key)
    (value : ν) : (dictionary.insert key value).entries = dictionary.entries ++ [(key, value)] :=
  placeInOrder_eq_append (fun entry hentry => h entry.1 (List.mem_map_of_mem hentry)) value

theorem lt_of_entries {done rest : List (String × ν)} {entry : String × ν}
    (h : dictionary.entries = done ++ entry :: rest) : ∀ key ∈ done.map Prod.fst, key < entry.1 := by
  intro key hkey
  obtain ⟨earlier, hearlier, rfl⟩ := List.mem_map.1 hkey
  have hsorted := dictionary.sorted
  rw [h, List.pairwise_append] at hsorted
  exact hsorted.2.2 earlier hearlier entry List.mem_cons_self

end Dictionary

namespace LayerDescription

/-- The blobs hold what is described, each under its name. -/
def Describe (done : List (String × BlobDescription)) (blobs : Blobs) : Prop :=
  blobs.entries.map (fun entry => (entry.1, describeBlob entry.2)) =
    done.map fun entry => (entry.1, entry.2.filled)

theorem Describe.map_fst {done : List (String × BlobDescription)} {blobs : Blobs}
    (h : Describe done blobs) : blobs.entries.map Prod.fst = done.map Prod.fst := by
  have hkeys := congrArg (List.map Prod.fst) h
  simp only [List.map_map] at hkeys
  exact hkeys

theorem decided_toBlobs (layer : LayerDescription) :
    Decided (Describe layer.blobs.entries)
      (layer.blobs.entries.flatMap fun entry => entry.2.faults layer.name entry.1) layer.toBlobs := by
  rw [← faultsAfter_of_apart _ []]
  have hstart : Describe [] .empty := rfl
  apply Decided.foldlM Describe hstart
  intro done entry rest blobs hsplit hblobs
  apply (entry.2.decided_toTensor layer.name entry.1).bind_ok
  intro tensor htensor
  have hlast : ∀ key ∈ blobs.entries.map Prod.fst, key < entry.1 := by
    rw [hblobs.map_fst]
    exact Dictionary.lt_of_entries hsplit
  unfold Describe at hblobs ⊢
  rw [Dictionary.entries_insert hlast, List.map_append, List.map_append, hblobs, List.map_singleton,
    List.map_singleton, htensor]

theorem decided_toLayer (layer : LayerDescription) :
    Decided (fun made => describeLayer made = layer.filled)
      (layer.blobs.entries.flatMap fun entry => entry.2.faults layer.name entry.1) layer.toLayer := by
  apply layer.decided_toBlobs.bind_ok
  intro blobs hblobs
  have hdescribed : blobs.map describeBlob = layer.blobs.map BlobDescription.filled :=
    Dictionary.eq_of_entries hblobs
  rw [describeLayer, filled, hdescribed]

end LayerDescription

/-! ### The network that is partly built -/

namespace Network

variable {network : Network} {layers : List LayerDescription}

/-- What depends on the description of a layer only can be asked of the description. -/
theorem exists_described_iff (hlayers : network.layers.map describeLayer = layers.map .filled)
    {property : LayerDescription → Prop} (hfilled : ∀ layer, property (.filled layer) ↔ property layer) :
    (∃ layer ∈ layers, property layer) ↔ ∃ layer ∈ network.layers, property (describeLayer layer) :=
  calc (∃ layer ∈ layers, property layer)
    _ ↔ ∃ layer ∈ layers.map LayerDescription.filled, property layer := by simp [hfilled]
    _ ↔ ∃ layer ∈ network.layers.map describeLayer, property layer := by rw [hlayers]
    _ ↔ ∃ layer ∈ network.layers, property (describeLayer layer) := by simp

theorem WellFormed.contains_names_iff (h : network.WellFormed) {name : String} :
    network.names.contains name = true ↔ ∃ layer ∈ network.layers, layer.name = name := by
  rw [Table.contains_eq, Option.isSome_iff_exists]
  constructor
  · rintro ⟨id, hid⟩
    obtain ⟨layer, hlayer, hname⟩ := h.names_iff.1 hid
    exact ⟨layer, List.mem_of_getElem? hlayer, hname⟩
  · rintro ⟨layer, hmem, hname⟩
    obtain ⟨id, hlayer⟩ := List.mem_iff_getElem?.1 hmem
    exact ⟨id, h.names_iff.2 ⟨layer, hlayer, hname⟩⟩

theorem WellFormed.contains_producers_iff (h : network.WellFormed) {target : PortRef} :
    network.producers.contains target = true ↔
      ∃ connection ∈ network.connections, connection.target = target := by
  rw [Table.contains_eq, Option.isSome_iff_exists]
  constructor
  · rintro ⟨source, hsource⟩
    exact ⟨⟨source, target⟩, h.producers_iff.1 hsource, rfl⟩
  · rintro ⟨connection, hmem, rfl⟩
    exact ⟨connection.source, h.producers_iff.2 hmem⟩

/-- The network was built from the layers that come first. -/
structure Layered (name : String) (done : List LayerDescription) (network : Network) : Prop where
  built : network.Built
  name_eq : network.name = name
  layers_eq : network.layers.map describeLayer = done.map .filled
  connections_eq : network.connections = []

theorem Layered.decided_addLayer {name : String} {done : List LayerDescription}
    (h : network.Layered name done) (layer : LayerDescription) :
    Decided (Layered name (done ++ [layer])) (layer.faults done)
      (NetworkDescription.addLayer network layer) := by
  apply layer.decided_toLayer.bind
  intro made hmade
  have hname : made.name = layer.name := congrArg LayerDescription.name hmade
  have hnamed : (∃ other ∈ done, other.name = layer.name) ↔
      network.names.contains made.name = true := by
    rw [h.built.wellFormed.contains_names_iff, hname]
    exact exists_described_iff h.layers_eq fun _ => Iff.rfl
  by_cases hused : network.names.contains made.name = true
  · have hrefused : network.addLayer made = .error (.duplicateLayerName made.name) := by
      rw [addLayer, if_pos hused]
    simp only [hrefused, if_pos (hnamed.2 hused), hname]
    exact .refused _ _
  · have hadd : network.addLayer made = .ok (network.layers.length, { network with
        layers := network.layers ++ [{ made with id := network.layers.length }]
        names := network.names.insert made.name network.layers.length }) := by
      rw [addLayer, if_neg hused]
    have hlayers : (network.layers ++ [{ made with id := network.layers.length }]).map describeLayer =
        (done ++ [layer]).map .filled := by
      rw [List.map_append, List.map_append, h.layers_eq, List.map_singleton, List.map_singleton,
        ← hmade]
      rfl
    simp only [hadd, if_neg (mt hnamed.1 hused)]
    exact .accepted ⟨h.built.addLayer hadd, h.name_eq, hlayers, h.connections_eq⟩

/-- The network was built from all layers and the connections that come first. -/
structure Connected (layered : Network) (done : List ConnectionDescription) (network : Network) :
    Prop where
  built : network.Built
  name_eq : network.name = layered.name
  layers_eq : network.layers = layered.layers
  connections_eq : network.connections.map network.describeConnection = done

section

variable {layered : Network} {done : List ConnectionDescription} {id : LayerId} {layer : Layer}

theorem WellFormed.decided_layerId (h : network.WellFormed)
    (hlayers : network.layers.map describeLayer = layers.map .filled) (name : String) :
    Decided (fun id => ∃ layer, network.layers[id]? = some layer ∧ layer.name = name)
      (ConnectionDescription.nameFaults layers name) (network.layerId name) := by
  have hnamed : (∃ layer ∈ layers, layer.name = name) ↔ network.names.contains name = true := by
    rw [h.contains_names_iff]
    exact exists_described_iff hlayers fun _ => Iff.rfl
  unfold ConnectionDescription.nameFaults layerId
  cases hid : network.names.get? name with
  | none =>
    rw [if_neg (by simp [hnamed, Table.contains_eq, hid])]
    exact .refused _ _
  | some id =>
    rw [if_pos (by simp [hnamed, Table.contains_eq, hid])]
    exact .accepted (h.names_iff.1 hid)

/-- A port is missing if the one layer of the name lacks it. -/
theorem WellFormed.portFaults_eq (h : network.WellFormed)
    (hlayers : network.layers.map describeLayer = layers.map .filled)
    (hlayer : network.layers[id]? = some layer) (port : Nat) (direction : PortDirection) :
    ConnectionDescription.portFaults layers layer.name port direction =
      if ((describeLayer layer).ports direction).length ≤ port
      then [.portNotFound layer.name port direction] else [] := by
  have hport : (∃ described ∈ layers, described.name = layer.name ∧
      (described.ports direction).length ≤ port) ↔
        ((describeLayer layer).ports direction).length ≤ port := by
    rw [exists_described_iff hlayers (by cases direction <;> exact fun _ => Iff.rfl)]
    constructor
    · rintro ⟨other, hmem, hname, hbeyond⟩
      obtain ⟨otherId, hother⟩ := List.mem_iff_getElem?.1 hmem
      have hid : otherId = id := h.id_eq_of_name_eq hother hlayer hname
      rw [hid, hlayer] at hother
      cases hother
      exact hbeyond
    · exact fun hbeyond => ⟨layer, List.mem_of_getElem? hlayer, rfl, hbeyond⟩
  simp only [ConnectionDescription.portFaults, hport]

theorem Connected.taken_iff (h : Connected layered done network)
    (hlayer : network.layers[id]? = some layer) {port : Nat} :
    (∃ other ∈ done, other.target = layer.name ∧ other.targetPort = port) ↔
      network.producers.contains ⟨id, port⟩ = true := by
  have hnetwork := h.built.wellFormed
  rw [hnetwork.contains_producers_iff, ← h.connections_eq]
  simp only [List.mem_map, exists_exists_and_eq_and, describeConnection]
  refine exists_congr fun connection => and_congr_right fun hmem => ?_
  obtain ⟨fed, hfed, -⟩ := hnetwork.target_exists connection hmem
  rw [nameOf_eq hfed]
  constructor
  · rintro ⟨hname, rfl⟩
    rw [← hnetwork.id_eq_of_name_eq hfed hlayer hname]
  · rintro heq
    rw [heq, hlayer] at hfed
    cases hfed
    exact ⟨rfl, by rw [heq]⟩

theorem Connected.decided_connect (h : Connected layered done network)
    (hlayers : layered.layers.map describeLayer = layers.map .filled)
    (connection : ConnectionDescription) :
    Decided (Connected layered (done ++ [connection])) (connection.faults layers done)
      (network.connect connection.source connection.sourcePort connection.target
        connection.targetPort) := by
  have hnetwork := h.built.wellFormed
  rw [← h.layers_eq] at hlayers
  apply (hnetwork.decided_layerId hlayers connection.source).bind
  rintro sourceId ⟨producer, hproducer, hsource⟩
  apply (hnetwork.decided_layerId hlayers connection.target).bind
  rintro targetId ⟨consumer, hconsumer, htarget⟩
  rw [← hsource, ← htarget, hnetwork.portFaults_eq hlayers hproducer,
    hnetwork.portFaults_eq hlayers hconsumer]
  simp only [h.taken_iff hconsumer]
  rw [connectPorts, layer_eq_ok_iff.2 hproducer, ok_bind]
  apply Decided.check
  intro houtput
  rw [layer_eq_ok_iff.2 hconsumer, ok_bind]
  apply Decided.check
  intro hinput
  by_cases htaken : network.producers.contains ⟨targetId, connection.targetPort⟩ = true
  · rw [if_pos htaken, if_pos htaken]
    exact .refused _ _
  · rw [if_neg htaken, if_neg htaken]
    have hports : network.connectPorts ⟨sourceId, connection.sourcePort⟩
        ⟨targetId, connection.targetPort⟩ = .ok _ :=
      connectPorts_eq_ok_iff.2 ⟨⟨producer, hproducer, Nat.not_le.1 houtput⟩,
        ⟨consumer, hconsumer, Nat.not_le.1 hinput⟩,
        by simpa [Table.contains_eq, producerOf?] using htaken, rfl⟩
    have hlast : network.describeConnection
        ⟨⟨sourceId, connection.sourcePort⟩, ⟨targetId, connection.targetPort⟩⟩ = connection := by
      rw [describeConnection, nameOf_eq hproducer, nameOf_eq hconsumer, hsource, htarget]
    refine .accepted ⟨h.built.connectPorts hports, h.name_eq, h.layers_eq, ?_⟩
    calc (network.connections ++ [_]).map network.describeConnection
      _ = network.connections.map network.describeConnection ++ [connection] := by
        rw [List.map_append, List.map_singleton, hlast]
      _ = done ++ [connection] := by rw [h.connections_eq]

end

end Network

/-! ### Whole descriptions -/

namespace NetworkDescription

theorem addConnection_eq (network : Network) (connection : ConnectionDescription) :
    addConnection network connection = (network.connect connection.source connection.sourcePort
      connection.target connection.targetPort).mapError DescriptionError.network := by
  unfold addConnection
  cases network.connect connection.source connection.sourcePort connection.target
    connection.targetPort <;> rfl

theorem decided_toNetwork (description : NetworkDescription) :
    Decided (fun network => network.Built ∧ network.describe = description.filled)
      description.faults description.toNetwork := by
  have hlayered : Decided (Network.Layered description.name description.layers)
      (faultsAfter LayerDescription.faults [] description.layers)
      (description.layers.foldlM addLayer (.empty description.name)) := by
    apply Decided.foldlM (Network.Layered description.name) ⟨.empty _, rfl, rfl, rfl⟩
    intro done layer rest network _ hnetwork
    exact hnetwork.decided_addLayer layer
  apply hlayered.bind
  intro layered hlayers
  have hconnected : Decided (Network.Connected layered description.connections)
      (faultsAfter (fun before connection =>
        (connection.faults description.layers before).map .network) [] description.connections)
      (description.connections.foldlM addConnection layered) := by
    have hnone : layered.connections.map layered.describeConnection = [] := by
      rw [hlayers.connections_eq, List.map_nil]
    apply Decided.foldlM (Network.Connected layered) ⟨hlayers.built, rfl, rfl, hnone⟩
    intro done connection rest network _ hnetwork
    rw [addConnection_eq]
    exact (hnetwork.decided_connect hlayers.layers_eq connection).mapError DescriptionError.network
  apply hconnected.mono
  intro network hnetwork
  refine ⟨hnetwork.built, ?_⟩
  rw [Network.describe, filled, hnetwork.name_eq, hlayers.name_eq, hnetwork.layers_eq,
    hlayers.layers_eq, hnetwork.connections_eq]

/-- The first fault of a description is the one it is refused for; without a fault it becomes a network
of exactly the described layers and connections. -/
theorem toNetwork_faults (description : NetworkDescription) :
    match description.faults.head? with
    | some cause => description.toNetwork = .error cause
    | none => ∃ network, description.toNetwork = .ok network ∧
        (∀ (id : LayerId) (layer : Layer), network.layers[id]? = some layer → layer.id = id) ∧
        network.describe = description.filled := by
  have hdecided := description.decided_toNetwork
  generalize description.faults = faults at hdecided ⊢
  generalize description.toNetwork = outcome at hdecided ⊢
  cases hdecided with
  | refused cause others => rfl
  | accepted h => exact ⟨_, rfl, fun _ _ => h.1.wellFormed.id_eq, h.2⟩

example : faults ⟨"", [⟨"a", "Const", [], [], .empty, .ofList [("w", ⟨[2], some [.zero]⟩)], false⟩,
    ⟨"a", "ReLU", [], [], .empty, .empty, false⟩], [⟨"a", 0, "b", 0⟩]⟩ =
    [.network (.invalidBlob "a" "w" .tooFewValues), .network (.duplicateLayerName "a"),
      .network (.layerNameNotFound "b"), .network (.portNotFound "a" 0 .output)] := by decide

end NetworkDescription

end ShapeFlow
