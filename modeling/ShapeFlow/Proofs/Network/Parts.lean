import ShapeFlow.Proofs.Network.Built

/-!
A network that was built is determined by its name, its layers and its connections: the tables are
those that the layers and connections make, in the order in which they were added.
-/

namespace ShapeFlow.Network

def nameTable (layers : List Layer) : Table String LayerId :=
  layers.foldl (fun table layer => table.insert layer.name layer.id) .empty

def producerTable (connections : List Connection) : Table PortRef PortRef :=
  connections.foldl (fun table connection => table.insert connection.target connection.source) .empty

def consumerTable (connections : List Connection) : Table PortRef (List PortRef) :=
  connections.foldl (fun table connection => table.insert connection.source
    ((table.get? connection.source).getD [] ++ [connection.target])) .empty

theorem nameTable_append (layers : List Layer) (layer : Layer) :
    nameTable (layers ++ [layer]) = (nameTable layers).insert layer.name layer.id := by
  simp [nameTable]

theorem producerTable_append (connections : List Connection) (connection : Connection) :
    producerTable (connections ++ [connection]) =
      (producerTable connections).insert connection.target connection.source := by
  simp [producerTable]

theorem consumerTable_append (connections : List Connection) (connection : Connection) :
    consumerTable (connections ++ [connection]) =
      (consumerTable connections).insert connection.source
        (((consumerTable connections).get? connection.source).getD [] ++ [connection.target]) := by
  simp [consumerTable]

/-- Shapes do not enter the table of names. -/
theorem nameTable_of_skeleton {a b : List Layer} (h : a.map Layer.skeleton = b.map Layer.skeleton) :
    nameTable a = nameTable b := by
  have hskeleton : ∀ layers : List Layer, nameTable layers = nameTable (layers.map Layer.skeleton) := by
    intro layers
    rw [nameTable, nameTable, List.foldl_map]
    rfl
  rw [hskeleton a, h, ← hskeleton b]

/-- The tables are those of the layers and connections. -/
structure Indexed (network : Network) : Prop where
  names_eq : network.names = nameTable network.layers
  producers_eq : network.producers = producerTable network.connections
  consumers_eq : network.consumers = consumerTable network.connections

namespace Indexed

variable {network next : Network}

theorem addLayer (h : network.Indexed) {layer : Layer} {id : LayerId}
    (hadd : network.addLayer layer = .ok (id, next)) : next.Indexed := by
  unfold Network.addLayer at hadd
  split at hadd
  · cases hadd
  · cases hadd
    refine ⟨?_, h.producers_eq, h.consumers_eq⟩
    rw [nameTable_append, ← h.names_eq]

theorem connectPorts (h : network.Indexed) {source target : PortRef}
    (hconnect : network.connectPorts source target = .ok next) : next.Indexed := by
  obtain ⟨-, -, -, rfl⟩ := connectPorts_eq_ok_iff.1 hconnect
  refine ⟨h.names_eq, ?_, ?_⟩
  · rw [producerTable_append, ← h.producers_eq]
  · rw [consumerTable_append, ← h.consumers_eq]
    rfl

theorem of_skeleton (h : network.Indexed) (hskeleton : next.skeleton = network.skeleton) :
    next.Indexed := by
  obtain ⟨-, hlayers, hconnections, hnames, hproducers, hconsumers⟩ := skeleton_eq_iff.1 hskeleton
  refine ⟨?_, ?_, ?_⟩
  · rw [hnames, h.names_eq, nameTable_of_skeleton hlayers]
  · rw [hproducers, h.producers_eq, hconnections]
  · rw [hconsumers, h.consumers_eq, hconnections]

end Indexed

theorem Built.indexed {network : Network} (h : network.Built) : network.Indexed := by
  induction h with
  | empty name => exact ⟨rfl, rfl, rfl⟩
  | addLayer _ hadd ih => exact ih.addLayer hadd
  | connectPorts _ hconnect ih => exact ih.connectPorts hconnect
  | applyShapes _ happly ih => exact ih.of_skeleton (skeleton_applyShapes happly)
  | run _ reshaper overrides ih => exact ih.of_skeleton (Reshaper.skeleton_run _ _ _)

theorem Built.eq_of_parts {a b : Network} (ha : a.Built) (hb : b.Built) (hname : a.name = b.name)
    (hlayers : a.layers = b.layers) (hconnections : a.connections = b.connections) : a = b := by
  obtain ⟨hnames, hproducers, hconsumers⟩ := ha.indexed
  obtain ⟨hnames', hproducers', hconsumers'⟩ := hb.indexed
  cases a
  cases b
  simp_all

end ShapeFlow.Network
