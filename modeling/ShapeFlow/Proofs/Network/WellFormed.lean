import ShapeFlow.Proofs.Network.Skeleton
import ShapeFlow.Proofs.Outcome

/-!
The representation invariant of networks. Names, producers and consumers are looked up in tables of
their own; the invariant ties each table to the layers and connections, and every operation that adds
to a network keeps it. It does not speak of shapes.
-/

namespace ShapeFlow.Network

theorem layer_eq_ok_iff {network : Network} {id : LayerId} {layer : Layer} :
    network.layer id = .ok layer ↔ network.layers[id]? = some layer := by
  unfold Network.layer
  split <;> simp_all

theorem layerId_eq_ok_iff {network : Network} {name : String} {id : LayerId} :
    network.layerId name = .ok id ↔ network.names.get? name = some id := by
  unfold layerId
  split <;> simp_all

theorem nameOf_eq {network : Network} {id : LayerId} {layer : Layer}
    (h : network.layers[id]? = some layer) : network.nameOf id = layer.name := by
  simp [nameOf, h]

theorem connectPorts_eq_ok_iff {network next : Network} {source target : PortRef} :
    network.connectPorts source target = .ok next ↔
      (∃ layer, network.layers[source.layer]? = some layer ∧ source.port < layer.outputs.length) ∧
      (∃ layer, network.layers[target.layer]? = some layer ∧ target.port < layer.inputs.length) ∧
      network.producerOf? target = none ∧
      next = { network with
        connections := network.connections ++ [⟨source, target⟩]
        producers := network.producers.insert target source
        consumers := network.consumers.insert source (network.consumersOf source ++ [target]) } := by
  have hfree : network.producers.contains target = true ↔ network.producerOf? target ≠ none := by
    rw [Table.contains_eq, Option.isSome_iff_ne_none, producerOf?]
  unfold connectPorts
  simp only [bind_eq_ok_iff, layer_eq_ok_iff]
  constructor
  · rintro ⟨producer, hproducer, h⟩
    split at h
    · cases h
    · obtain ⟨consumer, hconsumer, h⟩ := bind_eq_ok_iff.1 h
      split at h
      · cases h
      · split at h
        · cases h
        · next hsource htarget hcontains =>
          cases h
          exact ⟨⟨producer, hproducer, by omega⟩,
            ⟨consumer, layer_eq_ok_iff.1 hconsumer, by omega⟩, by simpa [hfree] using hcontains, rfl⟩
  · rintro ⟨⟨producer, hproducer, hsource⟩, ⟨consumer, hconsumer, htarget⟩, hnone, rfl⟩
    refine ⟨producer, hproducer, ?_⟩
    rw [if_neg (by omega), layer_eq_ok_iff.2 hconsumer, ok_bind, if_neg (by omega),
      if_neg (by simp [hfree, hnone])]

/-- A connection by names is one between the ports of the layers that bear them. -/
theorem connect_eq_ok_iff {network next : Network} {source target : String}
    {sourcePort targetPort : Nat} :
    network.connect source sourcePort target targetPort = .ok next ↔ ∃ sourceId targetId,
      network.names.get? source = some sourceId ∧ network.names.get? target = some targetId ∧
        network.connectPorts ⟨sourceId, sourcePort⟩ ⟨targetId, targetPort⟩ = .ok next := by
  simp only [connect, bind_eq_ok_iff, layerId_eq_ok_iff, exists_and_left]

structure WellFormed (network : Network) : Prop where
  id_eq : ∀ {id : LayerId} {layer : Layer}, network.layers[id]? = some layer → layer.id = id
  names_iff : ∀ {name : String} {id : LayerId}, network.names.get? name = some id ↔
    ∃ layer, network.layers[id]? = some layer ∧ layer.name = name
  producers_iff : ∀ {target source : PortRef}, network.producerOf? target = some source ↔
    ⟨source, target⟩ ∈ network.connections
  consumers_eq : ∀ source, network.consumersOf source =
    (network.connections.filter (·.source == source)).map Connection.target
  targets_nodup : (network.connections.map Connection.target).Nodup
  source_exists : ∀ connection ∈ network.connections, ∃ layer,
    network.layers[connection.source.layer]? = some layer ∧
      connection.source.port < layer.outputs.length
  target_exists : ∀ connection ∈ network.connections, ∃ layer,
    network.layers[connection.target.layer]? = some layer ∧
      connection.target.port < layer.inputs.length

namespace WellFormed

variable {network : Network}

/-- A name belongs to one layer. -/
theorem id_eq_of_name_eq (h : network.WellFormed) {i j : LayerId} {a b : Layer}
    (ha : network.layers[i]? = some a) (hb : network.layers[j]? = some b) (hname : a.name = b.name) :
    i = j := by
  have hi : network.names.get? b.name = some i := h.names_iff.2 ⟨a, ha, hname⟩
  have hj : network.names.get? b.name = some j := h.names_iff.2 ⟨b, hb, rfl⟩
  exact Option.some.inj (hi.symm.trans hj)

theorem eq_of_name_eq (h : network.WellFormed) {a b : Layer} (ha : a ∈ network.layers)
    (hb : b ∈ network.layers) (hname : a.name = b.name) : a = b := by
  obtain ⟨i, hi⟩ := List.mem_iff_getElem?.1 ha
  obtain ⟨j, hj⟩ := List.mem_iff_getElem?.1 hb
  rw [h.id_eq_of_name_eq hi hj hname, hj] at hi
  exact (Option.some.inj hi).symm

theorem mem_consumersOf_iff (h : network.WellFormed) {source target : PortRef} :
    target ∈ network.consumersOf source ↔ network.producerOf? target = some source := by
  rw [h.consumers_eq, h.producers_iff]
  simp only [List.mem_map, List.mem_filter, beq_iff_eq]
  constructor
  · rintro ⟨⟨source', target'⟩, ⟨hmem, rfl⟩, rfl⟩
    exact hmem
  · intro hmem
    exact ⟨⟨source, target⟩, ⟨hmem, rfl⟩, rfl⟩

theorem layerByName?_eq_some_iff (h : network.WellFormed) {name : String} {layer : Layer} :
    network.layerByName? name = some layer ↔
      ∃ id : LayerId, network.layers[id]? = some layer ∧ layer.name = name := by
  simp only [layerByName?, Option.bind_eq_bind, Option.bind_eq_some_iff, h.names_iff]
  constructor
  · rintro ⟨id, ⟨layer', hlayer', hname⟩, hlayer⟩
    rw [hlayer] at hlayer'
    cases hlayer'
    exact ⟨id, hlayer, hname⟩
  · rintro ⟨id, hlayer, hname⟩
    exact ⟨id, ⟨layer, hlayer, hname⟩, hlayer⟩

/-- A look-up by name finds the one layer of the name. -/
theorem eq_of_layerByName? (h : network.WellFormed) {id : LayerId} {name : String}
    {layer found : Layer} (hfound : network.layerByName? name = some found)
    (hlayer : network.layers[id]? = some layer) (hname : layer.name = name) : found = layer := by
  rw [h.layerByName?_eq_some_iff.2 ⟨id, hlayer, hname⟩, Option.some.injEq] at hfound
  exact hfound.symm

theorem empty (name : String) : (Network.empty name).WellFormed where
  id_eq := by simp [Network.empty]
  names_iff := by simp [Network.empty]
  producers_iff := by simp [Network.empty, producerOf?]
  consumers_eq := by simp [Network.empty, consumersOf]
  targets_nodup := by simp [Network.empty]
  source_exists := by simp [Network.empty]
  target_exists := by simp [Network.empty]

/-! ### Adding a layer -/

private theorem getElem?_append_layer {layers : List Layer} {added layer : Layer} {id : LayerId} :
    (layers ++ [added])[id]? = some layer ↔
      layers[id]? = some layer ∨ id = layers.length ∧ layer = added := by
  rw [List.getElem?_append]
  split
  · next hlt =>
    simp [Nat.ne_of_lt hlt]
  · next hge =>
    have hnone : layers[id]? = none := List.getElem?_eq_none (by omega)
    by_cases heq : id = layers.length
    · simp [heq, eq_comm]
    · have hbeyond : id - layers.length ≠ 0 :=
        Nat.sub_ne_zero_of_lt (Nat.lt_of_le_of_ne (Nat.not_lt.1 hge) (Ne.symm heq))
      simp [heq, hnone, hbeyond]

theorem addLayer (h : network.WellFormed) {layer : Layer} {id : LayerId} {next : Network}
    (hadd : network.addLayer layer = .ok (id, next)) : next.WellFormed := by
  unfold Network.addLayer at hadd
  split at hadd
  · cases hadd
  · next hfresh =>
    rw [Table.contains_eq, Option.not_isSome_iff_eq_none] at hfresh
    cases hadd
    have hkept : ∀ {id other}, network.layers[id]? = some other →
        (network.layers ++ [{ layer with id := network.layers.length }])[id]? = some other :=
      fun hother => getElem?_append_layer.2 (.inl hother)
    refine ⟨?_, ?_, h.producers_iff, h.consumers_eq, h.targets_nodup, ?_, ?_⟩
    · intro id other hother
      rcases getElem?_append_layer.1 hother with hother | ⟨rfl, rfl⟩
      · exact h.id_eq hother
      · rfl
    · intro name id
      simp only [Table.get?_insert, beq_iff_eq]
      split
      · next heq =>
        subst heq
        constructor
        · intro hid
          cases hid
          exact ⟨_, getElem?_append_layer.2 (.inr ⟨rfl, rfl⟩), rfl⟩
        · rintro ⟨other, hother, hname⟩
          rcases getElem?_append_layer.1 hother with hother | ⟨rfl, rfl⟩
          · have := h.names_iff.2 ⟨other, hother, hname⟩
            simp [hfresh] at this
          · rfl
      · next hne =>
        rw [h.names_iff]
        constructor
        · rintro ⟨other, hother, hname⟩
          exact ⟨other, hkept hother, hname⟩
        · rintro ⟨other, hother, hname⟩
          rcases getElem?_append_layer.1 hother with hother | ⟨rfl, rfl⟩
          · exact ⟨other, hother, hname⟩
          · exact absurd hname hne
    · intro connection hmem
      obtain ⟨other, hother, hport⟩ := h.source_exists connection hmem
      exact ⟨other, hkept hother, hport⟩
    · intro connection hmem
      obtain ⟨other, hother, hport⟩ := h.target_exists connection hmem
      exact ⟨other, hkept hother, hport⟩

/-! ### Adding a connection -/

theorem connectPorts (h : network.WellFormed) {source target : PortRef} {next : Network}
    (hconnect : network.connectPorts source target = .ok next) : next.WellFormed := by
  obtain ⟨hsource, htarget, hfree, rfl⟩ := connectPorts_eq_ok_iff.1 hconnect
  have hnot : ∀ other, ⟨other, target⟩ ∉ network.connections := by
    intro other hmem
    simp [h.producers_iff.2 hmem] at hfree
  refine ⟨h.id_eq, h.names_iff, ?_, ?_, ?_, ?_, ?_⟩
  · intro target' source'
    simp only [producerOf?, Table.get?_insert, beq_iff_eq, List.mem_append, List.mem_singleton,
      Connection.mk.injEq]
    split
    · next heq =>
      subst heq
      simp [hnot, eq_comm]
    · next hne =>
      rw [← producerOf?, h.producers_iff]
      simp [Ne.symm hne]
  · intro source'
    simp only [consumersOf, Table.get?_insert, beq_iff_eq, List.filter_append, List.map_append]
    split
    · next heq =>
      subst heq
      simpa [consumersOf] using h.consumers_eq source
    · next hne =>
      rw [← consumersOf, h.consumers_eq]
      simp [hne]
  · rw [List.map_append, List.nodup_append]
    refine ⟨h.targets_nodup, by simp, ?_⟩
    intro other hother
    obtain ⟨connection, hmem, rfl⟩ := List.mem_map.1 hother
    simp only [List.map_cons, List.map_nil, List.mem_singleton, forall_eq]
    rintro rfl
    exact hnot connection.source hmem
  · intro connection hmem
    rcases List.mem_append.1 hmem with hmem | hmem
    · exact h.source_exists connection hmem
    · rw [List.mem_singleton.1 hmem]
      exact hsource
  · intro connection hmem
    rcases List.mem_append.1 hmem with hmem | hmem
    · exact h.target_exists connection hmem
    · rw [List.mem_singleton.1 hmem]
      exact htarget

/-! ### Writing shapes -/

theorem of_skeleton (h : network.WellFormed) {other : Network}
    (hskeleton : other.skeleton = network.skeleton) : other.WellFormed := by
  obtain ⟨-, -, hconnections, hnames, hproducers, hconsumers⟩ := skeleton_eq_iff.1 hskeleton
  refine ⟨?_, ?_, ?_, ?_, ?_, ?_, ?_⟩
  · intro id layer hlayer
    obtain ⟨layer', hlayer', heq⟩ := exists_layer_of_skeleton hskeleton hlayer
    rw [← h.id_eq hlayer']
    exact (Layer.skeleton_eq_iff.1 heq).1.symm
  · intro name id
    rw [hnames, h.names_iff]
    constructor
    · rintro ⟨layer, hlayer, hname⟩
      obtain ⟨layer', hlayer', heq⟩ := exists_layer_of_skeleton hskeleton.symm hlayer
      exact ⟨layer', hlayer', (Layer.name_of_skeleton heq).trans hname⟩
    · rintro ⟨layer, hlayer, hname⟩
      obtain ⟨layer', hlayer', heq⟩ := exists_layer_of_skeleton hskeleton hlayer
      exact ⟨layer', hlayer', (Layer.name_of_skeleton heq).trans hname⟩
  · intro target source
    rw [producerOf?, hproducers, hconnections]
    exact h.producers_iff
  · intro source
    rw [consumersOf, hconsumers, hconnections]
    exact h.consumers_eq source
  · rw [hconnections]
    exact h.targets_nodup
  · intro connection hmem
    obtain ⟨layer, hlayer, hport⟩ := h.source_exists connection (hconnections ▸ hmem)
    obtain ⟨layer', hlayer', heq⟩ := exists_layer_of_skeleton hskeleton.symm hlayer
    exact ⟨layer', hlayer', by rwa [Layer.length_outputs_of_skeleton heq]⟩
  · intro connection hmem
    obtain ⟨layer, hlayer, hport⟩ := h.target_exists connection (hconnections ▸ hmem)
    obtain ⟨layer', hlayer', heq⟩ := exists_layer_of_skeleton hskeleton.symm hlayer
    exact ⟨layer', hlayer', by rwa [Layer.length_inputs_of_skeleton heq]⟩

end WellFormed

end ShapeFlow.Network
