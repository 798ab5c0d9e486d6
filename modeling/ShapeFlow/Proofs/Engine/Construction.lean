import ShapeFlow.Proofs.Engine.Launcher
import ShapeFlow.Proofs.Network.Built
import ShapeFlow.Proofs.Network.Order

/-!
What a reshaper is made of. Every layer of the network it was built for has a launcher with the ports,
producers, parameters and declared shapes of the layer, and the kind of the launcher agrees with the
place of the layer in the network. Accepted extensions keep all of this.
-/

namespace ShapeFlow

/-- The producers of the inputs of a layer, by name. -/
def Network.sourcesOf (network : Network) (layer : Layer) : List (Option Source) :=
  (List.range layer.inputs.length).map fun port =>
    (network.producerOf? ⟨layer.id, port⟩).map fun producer =>
      ⟨network.nameOf producer.layer, producer.port⟩

/-- The producer of an input, by name. -/
def Network.sourceOf? (network : Network) (input : PortRef) : Option Source :=
  (network.producerOf? input).map fun producer => ⟨network.nameOf producer.layer, producer.port⟩

theorem Network.getElem?_sourcesOf (network : Network) {layer : Layer} {port : Nat}
    (hport : port < layer.inputs.length) :
    (network.sourcesOf layer)[port]? = some (network.sourceOf? ⟨layer.id, port⟩) := by
  rw [sourcesOf, List.getElem?_map, List.getElem?_range hport]
  rfl

theorem resolveSources_eq {network : Network} (h : network.WellFormed) (layer : Layer) :
    resolveSources layer network = .ok (network.sourcesOf layer) := by
  refine mapM_eq_ok_of_forall fun port _ => ?_
  cases hproducer : network.producerOf? ⟨layer.id, port⟩ with
  | none => rfl
  | some producer =>
    obtain ⟨feeding, hfeeding, -⟩ := h.source_exists _ (h.producers_iff.1 hproducer)
    simp [Network.layer_eq_ok_iff.2 hfeeding, Network.nameOf_eq hfeeding]

theorem mem_sourcesOf_iff {network : Network} {layer : Layer} {source : Source} :
    some source ∈ network.sourcesOf layer ↔ ∃ port < layer.inputs.length, ∃ producer,
      network.producerOf? ⟨layer.id, port⟩ = some producer ∧
        source = ⟨network.nameOf producer.layer, producer.port⟩ := by
  simp only [Network.sourcesOf, List.mem_map, List.mem_range, Option.map_eq_some_iff]
  exact exists_congr fun port => and_congr_right fun _ => exists_congr fun producer =>
    and_congr_right fun _ => eq_comm

namespace Launcher

/-- The launcher was made for the layer, by its role in the network or by a later extension. -/
structure MadeFor (network : Network) (layer : Layer) (launcher : Launcher) : Prop where
  layerName_eq : launcher.layerName = layer.name
  params_eq : launcher.params = layer.params
  blobs_eq : launcher.blobs = layer.blobs
  sources_eq : launcher.sources = network.sourcesOf layer
  outputNames_eq : launcher.outputNames = layer.outputs.map Port.name
  declaredInputs_eq : launcher.declaredInputs = layer.inputShapes
  length_declaredOutputs : launcher.declaredOutputs.length = layer.outputs.length
  declaredOutputs_eq : (∀ rule, launcher.kind ≠ .ordinary rule) →
    launcher.declaredOutputs = declare layer launcher.kind
  length_outShapes : launcher.outShapes.length = layer.outputs.length
  isInput : launcher.kind = .input ∨ launcher.kind = .constant → layer.id ∈ network.inputLayers
  isInterior : launcher.kind = .memoryOutput ∨ launcher.kind = .passThrough →
    layer.id ∉ network.inputLayers

theorem length_declare (layer : Layer) (kind : LauncherKind) :
    (declare layer kind).length = layer.outputs.length := by
  unfold declare
  split
  · split
    · next houtputs => simpa [Layer.outputShapes] using (congrArg List.length houtputs).symm
    · simp [Layer.outputShapes]
  · simp [Layer.outputShapes]

section

variable {network : Network} {layer : Layer} {launcher other : Launcher}

theorem MadeFor.of_reset (h : launcher.MadeFor network layer) (hreset : other.reset = launcher.reset) :
    other.MadeFor network layer := by
  obtain ⟨hname, -, hkind, hparams, hblobs, hsources, hnames, hinputs, houtputs, hlength⟩ :=
    reset_eq_iff.1 hreset
  constructor
  · rw [hname, h.layerName_eq]
  · rw [hparams, h.params_eq]
  · rw [hblobs, h.blobs_eq]
  · rw [hsources, h.sources_eq]
  · rw [hnames, h.outputNames_eq]
  · rw [hinputs, h.declaredInputs_eq]
  · rw [houtputs, h.length_declaredOutputs]
  · rw [houtputs, hkind]
    exact h.declaredOutputs_eq
  · rw [hlength, h.length_outShapes]
  · rw [hkind]
    exact h.isInput
  · rw [hkind]
    exact h.isInterior

theorem MadeFor.rebind (h : launcher.MadeFor network layer) (rule : Rule) :
    (launcher.rebind rule).MadeFor network layer where
  layerName_eq := h.layerName_eq
  params_eq := h.params_eq
  blobs_eq := h.blobs_eq
  sources_eq := h.sources_eq
  outputNames_eq := h.outputNames_eq
  declaredInputs_eq := h.declaredInputs_eq
  length_declaredOutputs := h.length_declaredOutputs
  declaredOutputs_eq := fun hkind => absurd rfl (hkind rule)
  length_outShapes := by simp [Launcher.rebind, reset, h.length_outShapes]
  isInput := by simp [Launcher.rebind, reset]
  isInterior := by simp [Launcher.rebind, reset]

theorem madeFor_ofLayer {kind : LauncherKind} (hnetwork : network.WellFormed)
    (hinput : kind = .input ∨ kind = .constant → layer.id ∈ network.inputLayers)
    (hinterior : kind = .memoryOutput ∨ kind = .passThrough → layer.id ∉ network.inputLayers)
    (h : ofLayer layer network kind = .ok launcher) : launcher.MadeFor network layer := by
  simp only [ofLayer, resolveSources_eq hnetwork, EngineError.ofNetwork, ok_bind,
    Except.ok.injEq] at h
  subst h
  exact ⟨rfl, rfl, rfl, rfl, rfl, rfl, length_declare _ _, fun _ => rfl,
    by simp [length_declare], hinput, hinterior⟩

theorem kind_ofLayer {kind : LauncherKind} (h : ofLayer layer network kind = .ok launcher) :
    launcher.kind = kind := by
  obtain ⟨sources, -, h⟩ := bind_eq_ok_iff.1 h
  cases h
  rfl

end

end Launcher

/-! ### The role of a layer -/

namespace Layer

/-- A layer is of one type. -/
theorem isType_disjoint {layer : Layer} {a b : String} (h : layer.isType a = true)
    (hne : Caseless.eq a b = false) : layer.isType b = false := by
  by_contra hother
  rw [Bool.not_eq_false] at hother
  simp only [isType, Caseless.eq, beq_iff_eq] at h hother
  simp [Caseless.eq, ← h, hother] at hne

theorem inputKind_cases {layer : Layer} {kind : LauncherKind} (h : layer.inputKind = .ok kind) :
    (kind = .input ∧ (layer.isType "memory" = true ∧ layer.memorySide = .ok .read ∨
      layer.isType "const" = false ∧ layer.isType "input" = true)) ∨
    kind = .constant ∧ layer.isType "const" = true := by
  unfold inputKind at h
  split at h
  · next hmemory =>
    obtain ⟨side, hside, h⟩ := bind_eq_ok_iff.1 h
    cases side with
    | read =>
      cases h
      exact .inl ⟨rfl, .inl ⟨hmemory, hside⟩⟩
    | write => cases h
  · split at h
    · next hconst =>
      cases h
      exact .inr ⟨rfl, hconst⟩
    · next hconst =>
      split at h
      · next hinput =>
        cases h
        exact .inl ⟨rfl, .inr ⟨by simpa using hconst, hinput⟩⟩
      · cases h

theorem memorySide_of_checkInterior {layer : Layer} {side : MemorySide}
    (h : layer.checkInterior = .ok (some side)) :
    layer.isType "memory" = true ∧ layer.memorySide = .ok side := by
  unfold checkInterior at h
  dsimp only at h
  split at h
  · next hmemory =>
    obtain ⟨checked, hchecked, h⟩ := bind_eq_ok_iff.1 h
    obtain ⟨found, hfound, rfl⟩ := map_eq_ok_iff.1 hchecked
    split at h
    · cases h
    · cases h
      exact ⟨hmemory, hfound⟩
  · rw [ok_bind] at h
    split at h <;> cases h

theorem interiorKind_cases {layer : Layer} {registry : Registry} {kind : LauncherKind}
    (h : (layer.interiorKind registry).outcome = .ok kind) :
    (registry.get? layer.typeName = none ∧ kind = .passThrough) ∨
    ∃ rule, registry.get? layer.typeName = some rule ∧ (kind = .ordinary rule ∨
      kind = .memoryOutput ∧ layer.isType "memory" = true ∧ layer.memorySide = .ok .write) := by
  simp only [interiorKind, Journal.outcome_bind, Journal.outcome_lift, bind_eq_ok_iff] at h
  obtain ⟨side, hside, h⟩ := h
  split at h
  · next rule hrule =>
    refine .inr ⟨rule, hrule, ?_⟩
    cases h
    split
    · next hwrite =>
      subst hwrite
      exact .inr ⟨rfl, memorySide_of_checkInterior hside⟩
    · exact .inl rfl
  · next hnone =>
    cases h
    exact .inl ⟨hnone, rfl⟩

end Layer

/-! ### The launchers of a network -/

namespace LauncherSet

/-- The set holds a launcher for every layer of the network, and no other launchers. -/
structure For (network : Network) (set : LauncherSet) : Prop where
  wellFormed : set.WellFormed
  madeFor : ∀ {name : String} {launcher : Launcher}, set.get name = .ok launcher →
    ∃ (id : LayerId) (layer : Layer), network.layers[id]? = some layer ∧ layer.name = name ∧
      launcher.MadeFor network layer
  exists_get : ∀ {id : LayerId} {layer : Layer}, network.layers[id]? = some layer →
    ∃ launcher, set.get layer.name = .ok launcher

namespace For

variable {network : Network} {set other : LauncherSet} {layer : Layer} {launcher : Launcher}
  {id : LayerId}

theorem madeFor_layer (h : set.For network) (hnetwork : network.WellFormed)
    (hlayer : network.layers[id]? = some layer) (hget : set.get layer.name = .ok launcher) :
    launcher.MadeFor network layer := by
  obtain ⟨id', layer', hlayer', hname, hmade⟩ := h.madeFor hget
  have heq := hnetwork.id_eq_of_name_eq hlayer' hlayer hname
  subst heq
  rw [hlayer] at hlayer'
  cases hlayer'
  exact hmade

theorem insert (h : set.For network) (hlayer : network.layers[id]? = some layer)
    (hmade : launcher.MadeFor network layer) : (set.insert launcher).For network where
  wellFormed := h.wellFormed.insert launcher
  madeFor := by
    intro name found hfound
    rw [h.wellFormed.get_insert] at hfound
    split at hfound
    · next hname =>
      cases hfound
      exact ⟨id, layer, hlayer, by rw [hname, hmade.layerName_eq], hmade⟩
    · exact h.madeFor hfound
  exists_get := by
    intro id' layer' hlayer'
    rw [h.wellFormed.get_insert]
    split
    · exact ⟨launcher, rfl⟩
    · exact h.exists_get hlayer'

theorem of_reset (h : set.For network) (hother : other.WellFormed) (hreset : other.reset = set.reset) :
    other.For network where
  wellFormed := hother
  madeFor := by
    intro name found hfound
    obtain ⟨launcher, hlauncher, heq⟩ := exists_get_of_reset hreset hfound
    obtain ⟨id, layer, hlayer, hname, hmade⟩ := h.madeFor hlauncher
    exact ⟨id, layer, hlayer, hname, hmade.of_reset heq.symm⟩
  exists_get := by
    intro id layer hlayer
    obtain ⟨launcher, hlauncher⟩ := h.exists_get hlayer
    obtain ⟨found, hfound, -⟩ := exists_get_of_reset hreset.symm hlauncher
    exact ⟨found, hfound⟩

end For

theorem get_foldl_insert {launchers : List Launcher}
    (hnodup : (launchers.map Launcher.layerName).Nodup) :
    (launchers.foldl LauncherSet.insert .empty).WellFormed ∧ ∀ {name launcher},
      (launchers.foldl LauncherSet.insert .empty).get name = .ok launcher ↔
        launcher ∈ launchers ∧ launcher.layerName = name := by
  refine foldl_invariant (fun done (set : LauncherSet) => set.WellFormed ∧ ∀ {name launcher},
    set.get name = .ok launcher ↔ launcher ∈ done ∧ launcher.layerName = name)
    ⟨.empty, by simp [get, empty]⟩ ?_
  rintro done launcher rest set hitems ⟨hset, hdone⟩
  refine ⟨hset.insert launcher, ?_⟩
  intro name found
  have hfresh : ∀ other ∈ done, other.layerName ≠ launcher.layerName := by
    rw [hitems, List.map_append, List.nodup_append] at hnodup
    exact fun other hother => hnodup.2.2 _ (List.mem_map_of_mem hother) _ (by simp)
  rw [hset.get_insert, List.mem_append, List.mem_singleton]
  split
  · next hname =>
    subst hname
    constructor
    · intro heq
      cases heq
      exact ⟨.inr rfl, rfl⟩
    · rintro ⟨hmem | rfl, hname⟩
      · exact absurd hname (hfresh _ hmem)
      · rfl
  · next hne =>
    rw [hdone]
    constructor
    · rintro ⟨hmem, hname⟩
      exact ⟨.inl hmem, hname⟩
    · rintro ⟨hmem | rfl, hname⟩
      · exact ⟨hmem, hname⟩
      · exact absurd hname.symm hne

end LauncherSet

/-! ### Input layers and names of layers -/

namespace Network.WellFormed

variable {network : Network}

theorem map_id_eq_range (h : network.WellFormed) :
    network.layers.map Layer.id = List.range network.layers.length := by
  apply List.ext_getElem?
  intro id
  rw [List.getElem?_map]
  cases hlayer : network.layers[id]? with
  | none => simp [List.getElem?_eq_none_iff.1 hlayer]
  | some layer =>
    obtain ⟨hlt, -⟩ := List.getElem?_eq_some_iff.1 hlayer
    rw [Option.map_some, h.id_eq hlayer, List.getElem?_range hlt]

theorem nodup_inputLayers (h : network.WellFormed) : network.inputLayers.Nodup := by
  have hids : (network.layers.map Layer.id).Nodup := h.map_id_eq_range ▸ List.nodup_range
  exact hids.sublist (List.filter_sublist.map Layer.id)

theorem mem_inputLayers_iff (h : network.WellFormed) {id : LayerId} : id ∈ network.inputLayers ↔
    ∃ layer, network.layers[id]? = some layer ∧ network.isInput layer = true := by
  simp only [inputLayers, List.mem_map, List.mem_filter]
  constructor
  · rintro ⟨layer, ⟨hmem, hinput⟩, rfl⟩
    obtain ⟨id, hid⟩ := List.mem_iff_getElem?.1 hmem
    exact ⟨layer, h.id_eq hid ▸ hid, hinput⟩
  · rintro ⟨layer, hlayer, hinput⟩
    exact ⟨layer, ⟨List.mem_of_getElem? hlayer, hinput⟩, h.id_eq hlayer⟩

theorem nameOf_inj (h : network.WellFormed) {i j : LayerId} (hi : i < network.layers.length)
    (hj : j < network.layers.length) (heq : network.nameOf i = network.nameOf j) : i = j := by
  have hleft : network.layers[i]? = some network.layers[i] := List.getElem?_eq_getElem hi
  have hright : network.layers[j]? = some network.layers[j] := List.getElem?_eq_getElem hj
  rw [nameOf_eq hleft, nameOf_eq hright] at heq
  exact h.id_eq_of_name_eq hleft hright heq

theorem nodup_map_nameOf (h : network.WellFormed) {ids : List LayerId} (hnodup : ids.Nodup)
    (hids : ∀ id ∈ ids, id < network.layers.length) : (ids.map network.nameOf).Nodup :=
  hnodup.map_on fun _ hi _ hj heq => h.nameOf_inj (hids _ hi) (hids _ hj) heq

theorem lt_of_mem_inputLayers (h : network.WellFormed) {id : LayerId}
    (hid : id ∈ network.inputLayers) : id < network.layers.length := by
  obtain ⟨layer, hlayer, -⟩ := h.mem_inputLayers_iff.1 hid
  exact (List.getElem?_eq_some_iff.1 hlayer).1

end Network.WellFormed

/-! ### Reshapers -/

namespace Reshaper

variable {network : Network} {registry : Registry} {id : LayerId} {launcher : Launcher}
  {reshaper next : Reshaper}

theorem launcherFor_eq_ok {inputs : List LayerId}
    (h : (launcherFor network registry inputs id).outcome = .ok launcher) :
    ∃ layer kind, network.layers[id]? = some layer ∧
      (if id ∈ inputs then layer.inputKind = .ok kind
        else (layer.interiorKind registry).outcome = .ok kind) ∧
      Launcher.ofLayer layer network kind = .ok launcher := by
  simp only [launcherFor, Journal.outcome_bind, Journal.outcome_lift, bind_eq_ok_iff,
    EngineError.ofNetwork_eq_ok_iff, Network.layer_eq_ok_iff] at h
  obtain ⟨layer, hlayer, h⟩ := h
  split at h
  · next hinput =>
    obtain ⟨kind, hkind, hmade⟩ := bind_eq_ok_iff.1 h
    exact ⟨layer, kind, hlayer, by rwa [if_pos hinput], hmade⟩
  · next hinput =>
    simp only [Layer.interiorLauncher, Journal.outcome_bind, Journal.outcome_lift,
      bind_eq_ok_iff] at h
    obtain ⟨kind, hkind, hmade⟩ := h
    exact ⟨layer, kind, hlayer, by rwa [if_neg hinput], hmade⟩

/-- A launcher can be made for a layer whose place has a kind of launcher for it. -/
theorem exists_launcherFor_iff (hnetwork : network.WellFormed) {inputs : List LayerId} {layer : Layer}
    (hlayer : network.layers[id]? = some layer) :
    (∃ launcher, (launcherFor network registry inputs id).outcome = .ok launcher) ↔
      ∃ kind, if id ∈ inputs then layer.inputKind = .ok kind
        else (layer.interiorKind registry).outcome = .ok kind := by
  constructor
  · rintro ⟨launcher, hmade⟩
    obtain ⟨found, kind, hfound, hkind, -⟩ := launcherFor_eq_ok hmade
    rw [hlayer] at hfound
    cases hfound
    exact ⟨kind, hkind⟩
  · rintro ⟨kind, hkind⟩
    have hfound : EngineError.ofNetwork (network.layer id) = .ok layer :=
      EngineError.ofNetwork_eq_ok_iff.2 (Network.layer_eq_ok_iff.2 hlayer)
    simp only [launcherFor, Journal.outcome_bind, Journal.outcome_lift, hfound, ok_bind]
    split at hkind
    · next hinput =>
      simp [if_pos hinput, Layer.inputLauncher, hkind, Launcher.ofLayer, resolveSources_eq hnetwork,
        EngineError.ofNetwork]
    · next hinput =>
      simp [if_neg hinput, Layer.interiorLauncher, hkind, Launcher.ofLayer,
        resolveSources_eq hnetwork, EngineError.ofNetwork]

theorem madeFor_launcherFor (hnetwork : network.WellFormed)
    (h : (launcherFor network registry network.inputLayers id).outcome = .ok launcher) :
    ∃ layer, network.layers[id]? = some layer ∧ launcher.MadeFor network layer := by
  obtain ⟨layer, kind, hlayer, hkind, hmade⟩ := launcherFor_eq_ok h
  rw [← hnetwork.id_eq hlayer] at hkind
  refine ⟨layer, hlayer, Launcher.madeFor_ofLayer hnetwork ?_ ?_ hmade⟩
  · intro hinput
    split at hkind
    · next hmem => exact hmem
    · rcases Layer.interiorKind_cases hkind with ⟨-, rfl⟩ | ⟨rule, -, rfl | ⟨rfl, -⟩⟩ <;>
        simp at hinput
  · intro hinterior
    split at hkind
    · rcases Layer.inputKind_cases hkind with ⟨rfl, -⟩ | ⟨rfl, -⟩ <;> simp at hinterior
    · next hmem => exact hmem

/-- The reshaper has the layers of the network in order, and a launcher made for each of them. -/
structure MadeFor (network : Network) (reshaper : Reshaper) : Prop where
  sorted : ∃ order, network.topologicalOrder = .ok order ∧
    reshaper.sortedLayers = order.map network.nameOf
  inputs : reshaper.inputLayers = network.inputLayers.map network.nameOf
  launchers : reshaper.launchers.For network

theorem MadeFor.sortedLayers_eq (hmade : reshaper.MadeFor network) {order : List LayerId}
    (horder : network.topologicalOrder = .ok order) :
    reshaper.sortedLayers = order.map network.nameOf := by
  obtain ⟨order', horder', hsorted⟩ := hmade.sorted
  rw [horder] at horder'
  cases horder'
  exact hsorted

theorem MadeFor.mem_sortedLayers_iff (hmade : reshaper.MadeFor network)
    (hnetwork : network.WellFormed) {name : String} : name ∈ reshaper.sortedLayers ↔
      ∃ (id : LayerId) (layer : Layer), network.layers[id]? = some layer ∧ layer.name = name := by
  obtain ⟨order, horder, hsorted⟩ := hmade.sorted
  have hsorts := hnetwork.sorts horder
  rw [hsorted, List.mem_map]
  constructor
  · rintro ⟨id, hid, rfl⟩
    obtain ⟨layer, hlayer⟩ := hsorts.exists_layer hid
    exact ⟨id, layer, hlayer, (Network.nameOf_eq hlayer).symm⟩
  · rintro ⟨id, layer, hlayer, rfl⟩
    exact ⟨id, hsorts.mem_of_layer hlayer, Network.nameOf_eq hlayer⟩

theorem MadeFor.nodup_sortedLayers (hmade : reshaper.MadeFor network)
    (hnetwork : network.WellFormed) :
    reshaper.sortedLayers.Nodup := by
  obtain ⟨order, horder, hsorted⟩ := hmade.sorted
  have hsorts := hnetwork.sorts horder
  exact hsorted ▸ hnetwork.nodup_map_nameOf hsorts.nodup fun _ hid => hsorts.mem_iff.1 hid

theorem MadeFor.not_mem_done (hmade : reshaper.MadeFor network) (hnetwork : network.WellFormed)
    {done rest : List String} {name : String}
    (hsorted : reshaper.sortedLayers = done ++ name :: rest) : name ∉ done := by
  have hnodup := hmade.nodup_sortedLayers hnetwork
  rw [hsorted, List.nodup_middle, List.nodup_cons] at hnodup
  exact fun hdone => hnodup.1 (List.mem_append_left rest hdone)

section

variable {order : List LayerId} {launchers : List Launcher}

theorem map_layerName_of_mapM (hnetwork : network.WellFormed)
    (h : (order.mapM fun id => (launcherFor network registry network.inputLayers id).outcome) =
      .ok launchers) : launchers.map Launcher.layerName = order.map network.nameOf := by
  refine map_eq_of_mapM _ _ (fun id launcher hmade => ?_) h
  obtain ⟨layer, hlayer, hmade⟩ := madeFor_launcherFor hnetwork hmade
  rw [hmade.layerName_eq, Network.nameOf_eq hlayer]

/-- The launchers made one after the other make a set for the network. -/
theorem for_of_mapM (hnetwork : network.WellFormed) (hsorts : network.Sorts order)
    (h : (order.mapM fun id => (launcherFor network registry network.inputLayers id).outcome) =
      .ok launchers) :
    (launchers.foldl LauncherSet.insert .empty).For network ∧
      ∀ {id : LayerId} {layer : Layer}, network.layers[id]? = some layer → ∃ launcher,
        (launchers.foldl LauncherSet.insert .empty).get layer.name = .ok launcher ∧
          (launcherFor network registry network.inputLayers id).outcome = .ok launcher := by
  have hnodup : (launchers.map Launcher.layerName).Nodup := by
    rw [map_layerName_of_mapM hnetwork h]
    exact hnetwork.nodup_map_nameOf hsorts.nodup fun _ hid => hsorts.mem_iff.1 hid
  obtain ⟨hset, hget⟩ := LauncherSet.get_foldl_insert hnodup
  have hlauncher : ∀ {id : LayerId} {layer : Layer}, network.layers[id]? = some layer →
      ∃ launcher, (launchers.foldl LauncherSet.insert .empty).get layer.name = .ok launcher ∧
        (launcherFor network registry network.inputLayers id).outcome = .ok launcher := by
    intro id layer hlayer
    obtain ⟨launcher, hmem, hmade⟩ := exists_result_of_mapM h (hsorts.mem_of_layer hlayer)
    obtain ⟨layer', hlayer', hmadeFor⟩ := madeFor_launcherFor hnetwork hmade
    rw [hlayer] at hlayer'
    cases hlayer'
    exact ⟨launcher, hget.2 ⟨hmem, hmadeFor.layerName_eq⟩, hmade⟩
  refine ⟨⟨hset, ?_, ?_⟩, hlauncher⟩
  · intro name launcher hfound
    obtain ⟨hmem, rfl⟩ := hget.1 hfound
    obtain ⟨id, -, hmade⟩ := exists_item_of_mapM h hmem
    obtain ⟨layer, hlayer, hmadeFor⟩ := madeFor_launcherFor hnetwork hmade
    exact ⟨id, layer, hlayer, hmadeFor.layerName_eq.symm, hmadeFor⟩
  · intro id layer hlayer
    obtain ⟨launcher, hfound, -⟩ := hlauncher hlayer
    exact ⟨launcher, hfound⟩

end

/-- The order in which the launchers are made, unless there is none or nothing starts the graph. -/
def plan (network : Network) : Except EngineError (List LayerId) :=
  match network.topologicalOrder with
  | .error cause => .error (.unsupportedModel cause.message)
  | .ok order =>
    if network.inputLayers.isEmpty || order.isEmpty then
      .error (.unsupportedModel "failed to collect inputs and layers")
    else .ok order

/-- The reshaper that has the given launchers. -/
def assemble (network : Network) (registry : Registry) (launchers : List Launcher) : Reshaper where
  registry := registry
  inputLayers := network.inputLayers.map network.nameOf
  sortedLayers := launchers.map Launcher.layerName
  launchers := launchers.foldl LauncherSet.insert .empty

theorem plan_eq_ok_iff (hnetwork : network.WellFormed) {order : List LayerId} :
    plan network = .ok order ↔ network.topologicalOrder = .ok order ∧ network.inputLayers ≠ [] := by
  unfold plan
  cases horder : network.topologicalOrder with
  | error cause => simp
  | ok order =>
    by_cases hinputs : network.inputLayers = []
    · simp [hinputs]
    · obtain ⟨id, hid⟩ := List.exists_mem_of_ne_nil _ hinputs
      have hmem : id ∈ order :=
        (hnetwork.sorts horder).mem_iff.2 (hnetwork.lt_of_mem_inputLayers hid)
      simp [hinputs, List.ne_nil_of_mem hmem]

theorem outcome_build (hnetwork : network.WellFormed) (registry : Registry) :
    (build network registry).outcome = plan network >>= fun order =>
      assemble network registry <$>
        order.mapM fun id => (launcherFor network registry network.inputLayers id).outcome := by
  have hnames : (network.inputLayers.mapM fun id => do
      let layer ← EngineError.ofNetwork (network.layer id)
      (pure layer.name : Except EngineError String)) =
        .ok (network.inputLayers.map network.nameOf) := by
    refine mapM_eq_ok_of_forall fun id hid => ?_
    obtain ⟨layer, hlayer, -⟩ := hnetwork.mem_inputLayers_iff.1 hid
    rw [Network.layer_eq_ok_iff.2 hlayer, Network.nameOf_eq hlayer]
    rfl
  simp only [build, plan, Journal.outcome_bind, Journal.outcome_lift]
  cases network.topologicalOrder with
  | error cause => rfl
  | ok order =>
    simp only [ok_bind]
    split
    · rfl
    · simp only [Journal.outcome_bind, Journal.outcome_lift, Journal.outcome_mapM,
        Journal.outcome_note, Journal.outcome_pure, ok_bind]
      cases order.mapM fun id => (launcherFor network registry network.inputLayers id).outcome with
      | error cause => rfl
      | ok launchers =>
        rw [ok_bind, map_ok]
        exact congrArg (· >>= _) hnames

theorem build_eq_ok_iff (hnetwork : network.WellFormed) :
    (build network registry).outcome = .ok reshaper ↔ ∃ order launchers,
      network.topologicalOrder = .ok order ∧ network.inputLayers ≠ [] ∧
      (order.mapM fun id => (launcherFor network registry network.inputLayers id).outcome) =
        .ok launchers ∧ assemble network registry launchers = reshaper := by
  simp only [outcome_build hnetwork, bind_eq_ok_iff, map_eq_ok_iff, plan_eq_ok_iff hnetwork,
    and_assoc, exists_and_left]

theorem build_eq_ok (hnetwork : network.WellFormed)
    (h : (build network registry).outcome = .ok reshaper) :
    reshaper.MadeFor network ∧ ∀ {id : LayerId} {layer : Layer},
      network.layers[id]? = some layer → ∃ launcher,
        reshaper.launchers.get layer.name = .ok launcher ∧
          (launcherFor network registry network.inputLayers id).outcome = .ok launcher := by
  obtain ⟨order, launchers, horder, -, hlaunchers, rfl⟩ := (build_eq_ok_iff hnetwork).1 h
  obtain ⟨hset, hlauncher⟩ := for_of_mapM hnetwork (hnetwork.sorts horder) hlaunchers
  exact ⟨⟨⟨order, horder, map_layerName_of_mapM hnetwork hlaunchers⟩, rfl, hset⟩, hlauncher⟩

/-- A reshaper can be built for a network with inputs and an order if every layer suits its place. -/
theorem exists_build_of_launchers (hnetwork : network.WellFormed) {order : List LayerId}
    (horder : network.topologicalOrder = .ok order) (hinputs : network.inputLayers ≠ [])
    (hlaunchers : ∀ {id : LayerId} {layer : Layer}, network.layers[id]? = some layer → ∃ launcher,
      (launcherFor network registry network.inputLayers id).outcome = .ok launcher) :
    ∃ reshaper, (build network registry).outcome = .ok reshaper := by
  obtain ⟨launchers, hmade⟩ : ∃ launchers, (order.mapM fun id =>
      (launcherFor network registry network.inputLayers id).outcome) = .ok launchers :=
    exists_mapM_of_forall fun id hid => by
      obtain ⟨layer, hlayer⟩ := (hnetwork.sorts horder).exists_layer hid
      exact hlaunchers hlayer
  exact ⟨_, (build_eq_ok_iff hnetwork).2 ⟨order, launchers, horder, hinputs, hmade, rfl⟩⟩

theorem kind_of_build (hnetwork : network.WellFormed)
    (h : (build network registry).outcome = .ok reshaper) {layer : Layer}
    (hlayer : network.layers[id]? = some layer)
    (hget : reshaper.launchers.get layer.name = .ok launcher) :
    if layer.id ∈ network.inputLayers then layer.inputKind = .ok launcher.kind
    else (layer.interiorKind registry).outcome = .ok launcher.kind := by
  obtain ⟨launcher', hget', hlauncher⟩ := (build_eq_ok hnetwork h).2 hlayer
  rw [hget] at hget'
  cases hget'
  obtain ⟨layer', kind, hlayer', hkind, hmade⟩ := launcherFor_eq_ok hlauncher
  rw [hlayer] at hlayer'
  cases hlayer'
  rwa [hnetwork.id_eq hlayer, Launcher.kind_ofLayer hmade]

/-- Giving a type a new rule exchanges launchers for others made for the same layers. -/
theorem MadeFor.rebindType (h : reshaper.MadeFor network) {typeName : String}
    (hrebind : (reshaper.rebindType typeName).outcome = .ok next) : next.MadeFor network := by
  simp only [Reshaper.rebindType, Journal.outcome_bind, Journal.outcome_lift, bind_eq_ok_iff,
    Journal.outcome_foldlM, Journal.outcome_pure] at hrebind
  obtain ⟨rule, -, hlast⟩ := hrebind
  refine foldlM_invariant (fun _ (state : Reshaper) => state.MadeFor network) h ?_ hlast
  rintro done launcher rest state next hitems hstate hnext
  obtain ⟨-, -, hnext⟩ := bind_eq_ok_iff.1 hnext
  cases hnext
  have hmem : launcher ∈ (reshaper.launchers.launchers.filter (·.hasType typeName)).map
      (·.rebind rule) := by simp [hitems]
  obtain ⟨old, hold, rfl⟩ := List.mem_map.1 hmem
  have hget := h.launchers.wellFormed.get_of_mem (List.mem_of_mem_filter hold)
  obtain ⟨id, layer, hlayer, -, hmade⟩ := h.launchers.madeFor hget
  exact ⟨hstate.sorted, hstate.inputs, hstate.launchers.insert hlayer (hmade.rebind rule)⟩

theorem MadeFor.addExtension (h : reshaper.MadeFor network) {extension : Extension}
    (hadd : (reshaper.addExtension extension).outcome = .ok next) : next.MadeFor network := by
  simp only [Reshaper.addExtension, Journal.outcome_bind, bind_eq_ok_iff,
    Journal.outcome_foldlM] at hadd
  obtain ⟨⟨added, registry⟩, -, hlast⟩ := hadd
  have hstart : { reshaper with registry := registry }.MadeFor network :=
    ⟨h.sorted, h.inputs, h.launchers⟩
  exact foldlM_invariant (fun _ (state : Reshaper) => state.MadeFor network) hstart
    (fun _ _ _ _ _ _ hstate hnext => hstate.rebindType hnext) hlast

/-- The reshapers of a network: those built for it, after any number of accepted extensions. A run
and a refused extension leave a reshaper as it is. -/
inductive Of (network : Network) : Reshaper → Prop
  | build {registry : Registry} {reshaper : Reshaper}
      (hbuild : (Reshaper.build network registry).outcome = .ok reshaper) : Of network reshaper
  | addExtension {reshaper next : Reshaper} {extension : Extension} (h : Of network reshaper)
      (hadd : (reshaper.addExtension extension).outcome = .ok next) : Of network next

theorem Of.madeFor (hnetwork : network.WellFormed) (h : Of network reshaper) :
    reshaper.MadeFor network := by
  induction h with
  | build hbuild => exact (build_eq_ok hnetwork hbuild).1
  | addExtension _ hadd ih => exact ih.addExtension hadd

theorem exists_build_sample : ∃ reshaper, (build .sample .builtIn).outcome = .ok reshaper := by
  have hbuilt : (build .sample .builtIn).outcome.toOption.isSome = true := by decide +kernel
  obtain ⟨reshaper, hbuild⟩ := Option.isSome_iff_exists.1 hbuilt
  exact ⟨reshaper, toOption_eq_some_iff.1 hbuild⟩

end Reshaper

end ShapeFlow
