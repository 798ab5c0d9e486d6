import ShapeFlow.Proofs.InPlace
import ShapeFlow.Proofs.Network.Parts

/-!
Calls that change a network in place. Each call checks all it was given before it writes, so that a
refused one leaves the network as it was; the network after any history of calls, accepted or
refused, keeps the representation invariant and is known by its name, layers and connections.
-/

namespace ShapeFlow.Network

/-- A call on a network in place. What it has written stays written if it is refused later on. -/
abbrev Call := InPlace NetworkError Network

namespace Call

open InPlace

def addLayer (layer : Layer) : Call LayerId := do
  refuseIf ((← get).names.contains layer.name) (.duplicateLayerName layer.name)
  let id := (← get).layers.length
  modify fun network => { network with names := network.names.insert layer.name id }
  modify fun network => { network with layers := network.layers ++ [{ layer with id := id }] }
  return id

def connectPorts (source target : PortRef) : Call Unit := do
  let producer ← ask (·.layer source.layer)
  refuseIf (producer.outputs.length ≤ source.port)
    (.portNotFound producer.name source.port .output)
  let consumer ← ask (·.layer target.layer)
  refuseIf (consumer.inputs.length ≤ target.port)
    (.portNotFound consumer.name target.port .input)
  refuseIf ((← get).producers.contains target) (.portAlreadyConnected consumer.name target.port)
  modify fun network => { network with producers := network.producers.insert target source }
  modify fun network => { network with
    consumers := network.consumers.insert source (network.consumersOf source ++ [target]) }
  modify fun network => { network with connections := network.connections ++ [⟨source, target⟩] }

def connect (source : String) (sourcePort : Nat) (target : String) (targetPort : Nat) : Call Unit := do
  let sourceId ← ask (·.layerId source)
  let targetId ← ask (·.layerId target)
  connectPorts ⟨sourceId, sourcePort⟩ ⟨targetId, targetPort⟩

def checkCounts : List (Layer × LayerShapes) → Call Unit
  | [] => return
  | (layer, shapes) :: rest => do
    refuseIf (!shapes.fits layer) (.snapshotMismatch (.portCount layer.name))
    checkCounts rest

/-- Writes shapes to the layers from `id` on. -/
def writeFrom (id : LayerId) : List LayerShapes → Call Unit
  | [] => return
  | shapes :: rest => do
    modify fun network => { network with layers := network.layers.modify id (·.setShapes shapes) }
    writeFrom (id + 1) rest

def applyShapes (shapes : List LayerShapes) : Call Unit := do
  let layers := (← get).layers
  refuseIf (shapes.length ≠ layers.length)
    (.snapshotMismatch (.layerCount layers.length shapes.length))
  checkCounts (layers.zip shapes)
  writeFrom 0 shapes

section

variable (network : Network)

theorem run_addLayer (layer : Layer) :
    (addLayer layer).run network = settle network (network.addLayer layer) := by
  simp only [addLayer, Network.addLayer, run_get_bind, run_refuseIf_bind]
  split <;> rfl

theorem run_connectPorts (source target : PortRef) : (connectPorts source target).run network =
    settle network (((), ·) <$> network.connectPorts source target) := by
  simp only [connectPorts, Network.connectPorts, run_ask_bind, run_refuseIf_bind]
  cases network.layer source.layer with
  | error cause => rfl
  | ok producer =>
    simp only [ok_bind]
    split
    · rfl
    · cases network.layer target.layer with
      | error cause => rfl
      | ok consumer =>
        simp only [ok_bind, run_get_bind, run_refuseIf_bind]
        split
        · rfl
        · split <;> rfl

theorem run_connect (source : String) (sourcePort : Nat) (target : String) (targetPort : Nat) :
    (connect source sourcePort target targetPort).run network =
      settle network (((), ·) <$> network.connect source sourcePort target targetPort) := by
  simp only [connect, Network.connect, run_ask_bind, run_connectPorts]
  cases network.layerId source with
  | error cause => rfl
  | ok sourceId =>
    cases network.layerId target with
    | error cause => rfl
    | ok targetId => rfl

/-- The check stops at the first layer that its shapes do not fit. -/
theorem run_checkCounts (pairs : List (Layer × LayerShapes)) : (checkCounts pairs).run network =
    match pairs.find? fun pair => !pair.2.fits pair.1 with
    | some pair => .error (.snapshotMismatch (.portCount pair.1.name)) network
    | none => .ok () network := by
  induction pairs with
  | nil => rfl
  | cons pair rest ih =>
    rw [checkCounts, run_refuseIf_bind, List.find?_cons]
    by_cases hfits : pair.2.fits pair.1
    · simpa [hfits] using ih
    · simp [hfits]

theorem run_writeFrom (done : List Layer) (layers : List Layer) (shapes : List LayerShapes)
    (hlength : shapes.length = layers.length) :
    (writeFrom done.length shapes).run { network with layers := done ++ layers } =
      .ok () { network with layers := done ++ layers.zipWith Layer.setShapes shapes } := by
  induction shapes generalizing done layers with
  | nil =>
    rw [List.length_nil, eq_comm, List.length_eq_zero_iff] at hlength
    subst hlength
    rfl
  | cons first rest ih =>
    obtain _ | ⟨layer, layers⟩ := layers
    · simp at hlength
    · have hwritten : (done ++ layer :: layers).modify done.length (·.setShapes first) =
          (done ++ [layer.setShapes first]) ++ layers := by
        simp [List.modify_eq_take_cons_drop]
      have hnext := ih (done ++ [layer.setShapes first]) layers (by simpa using hlength)
      rw [List.length_append, List.length_singleton] at hnext
      simp only [writeFrom, EStateM.run_bind, EStateM.run_modify, hwritten, hnext]
      simp

theorem run_applyShapes (shapes : List LayerShapes) : (applyShapes shapes).run network =
    settle network (((), ·) <$> network.applyShapes shapes) := by
  simp only [applyShapes, Network.applyShapes, run_get_bind, run_refuseIf_bind]
  split
  · rfl
  · next hlength =>
    have hwrite := run_writeFrom network [] network.layers shapes (not_not.1 hlength)
    rw [EStateM.run_bind, run_checkCounts]
    cases (network.layers.zip shapes).find? fun pair => !pair.2.fits pair.1 with
    | some pair => rfl
    | none => exact hwrite

end

end Call

theorem WellFormed.nodup_names {network : Network} (h : network.WellFormed) :
    (network.layers.map Layer.name).Nodup := by
  refine List.pairwise_iff_getElem.2 fun i j hi hj hlt heq => ?_
  rw [List.length_map] at hi hj
  rw [List.getElem_map, List.getElem_map] at heq
  have hsame := h.id_eq_of_name_eq (List.getElem?_eq_getElem hi) (List.getElem?_eq_getElem hj) heq
  exact Nat.ne_of_lt hlt hsame

/-- A call that changes the network. -/
inductive Edit where
  | addLayer (layer : Layer)
  | connect (source : String) (sourcePort : Nat) (target : String) (targetPort : Nat)
  | connectPorts (source target : PortRef)
  | applyShapes (shapes : List LayerShapes)

namespace Edit

def perform : Edit → Call Unit
  | .addLayer layer => do
    let _ ← Call.addLayer layer
    return
  | .connect source sourcePort target targetPort => Call.connect source sourcePort target targetPort
  | .connectPorts source target => Call.connectPorts source target
  | .applyShapes shapes => Call.applyShapes shapes

/-- The network after the edit, or why the edit is refused. -/
def outcome (network : Network) : Edit → Except NetworkError Network
  | .addLayer layer => Prod.snd <$> network.addLayer layer
  | .connect source sourcePort target targetPort => network.connect source sourcePort target targetPort
  | .connectPorts source target => network.connectPorts source target
  | .applyShapes shapes => network.applyShapes shapes

/-- The network that an edit leaves. -/
def after (network : Network) (edit : Edit) : Network :=
  leftBy (edit.perform.run network)

section

variable {network : Network} (edit : Edit)

theorem run_perform : edit.perform.run network = settle network (((), ·) <$> edit.outcome network) := by
  cases edit with
  | addLayer layer =>
    rw [perform, EStateM.run_bind, Call.run_addLayer, outcome]
    cases network.addLayer layer <;> rfl
  | connect source sourcePort target targetPort => exact Call.run_connect ..
  | connectPorts source target => exact Call.run_connectPorts ..
  | applyShapes shapes => exact Call.run_applyShapes ..

/-- A refused edit leaves the network as it was. -/
theorem eq_of_refused {edit : Edit} {cause : NetworkError} {left : Network}
    (h : edit.perform.run network = .error cause left) : left = network := by
  rw [run_perform, settle_eq_error_iff] at h
  exact h.2.symm

theorem after_eq : edit.after network = (edit.outcome network).toOption.getD network := by
  rw [after, run_perform, leftBy_settle]

theorem built_outcome {edit : Edit} {next : Network} (h : network.Built)
    (hout : edit.outcome network = .ok next) : next.Built := by
  cases edit with
  | addLayer layer =>
    obtain ⟨⟨id, _⟩, hadd, rfl⟩ := map_eq_ok_iff.1 hout
    exact h.addLayer hadd
  | connect source sourcePort target targetPort => exact h.connect hout
  | connectPorts source target => exact h.connectPorts hout
  | applyShapes shapes => exact h.applyShapes hout

theorem connections_outcome {edit : Edit} {next : Network} (hout : edit.outcome network = .ok next) :
    network.connections <+: next.connections := by
  cases edit with
  | addLayer layer =>
    obtain ⟨⟨id, _⟩, hadd, rfl⟩ := map_eq_ok_iff.1 hout
    unfold Network.addLayer at hadd
    split at hadd
    · cases hadd
    · cases hadd
      exact List.prefix_rfl
  | connect source sourcePort target targetPort =>
    obtain ⟨sourceId, targetId, -, -, hconnect⟩ := connect_eq_ok_iff.1 hout
    obtain ⟨-, -, -, rfl⟩ := connectPorts_eq_ok_iff.1 hconnect
    exact List.prefix_append _ _
  | connectPorts source target =>
    obtain ⟨-, -, -, rfl⟩ := connectPorts_eq_ok_iff.1 hout
    exact List.prefix_append _ _
  | applyShapes shapes =>
    have hconnections := (skeleton_eq_iff.1 (skeleton_applyShapes hout)).2.2.1
    exact hconnections ▸ List.prefix_rfl

theorem built_after (h : network.Built) : (edit.after network).Built := by
  rw [after_eq]
  cases hout : edit.outcome network with
  | ok next => exact built_outcome h hout
  | error cause => exact h

/-- Connections are kept, and new ones come last. -/
theorem connections_after : network.connections <+: (edit.after network).connections := by
  rw [after_eq]
  cases hout : edit.outcome network with
  | ok next => exact connections_outcome hout
  | error cause => exact List.prefix_rfl

end

end Edit

/-- The network after a history of edits; a refused edit does not end it. -/
def history (name : String) (edits : List Edit) : Network :=
  edits.foldl Edit.after (empty name)

theorem built_history (name : String) (edits : List Edit) : (history name edits).Built :=
  foldl_invariant (fun _ => Built) (.empty name)
    fun _ edit _ _ _ hstate => edit.built_after hstate

/-- After every history the tables mirror the layers and connections, a refused edit changes nothing,
and the name, the layers and the connections determine the network; the next edit is made where the
history has left off, and ends with the network that is accepted or with the refusal. -/
theorem history_represented (name : String) (edits : List Edit) :
    (∀ edit : Edit, history name (edits ++ [edit]) = leftBy (edit.perform.run (history name edits)) ∧
      edit.perform.run (history name edits) =
        settle (history name edits) (((), ·) <$> edit.outcome (history name edits))) ∧
    (history name edits).WellFormed ∧ ((history name edits).layers.map Layer.name).Nodup ∧
    (∀ edit : Edit, (history name edits).connections <+:
      (edit.after (history name edits)).connections) ∧
    (∀ (edit : Edit) cause left, edit.perform.run (history name edits) = .error cause left →
      left = history name edits) ∧
    ∀ name' edits', (history name' edits').name = (history name edits).name →
      (history name' edits').layers = (history name edits).layers →
      (history name' edits').connections = (history name edits).connections →
      history name' edits' = history name edits := by
  have hbuilt := built_history name edits
  refine ⟨fun edit => ⟨List.foldl_append .., edit.run_perform⟩, hbuilt.wellFormed,
    hbuilt.wellFormed.nodup_names, fun edit => edit.connections_after, fun _ _ _ => Edit.eq_of_refused,
    fun name' edits' => ?_⟩
  exact (built_history name' edits').eq_of_parts hbuilt

/-- Two layers are added and connected, with a name given twice and an input connected twice. -/
def sampleEdits : List Edit :=
  [.addLayer ⟨0, "data", "Input", [], [⟨"data", [1, 4]⟩], .empty, .empty, false⟩,
    .addLayer ⟨0, "data", "ReLU", [], [], .empty, .empty, false⟩,
    .addLayer ⟨0, "act", "ReLU", [⟨"in", [1, 4]⟩], [⟨"out", [1, 4]⟩], .empty, .empty, false⟩,
    .connect "data" 0 "act" 0, .connect "act" 0 "act" 0]

example : history "sample" sampleEdits = sample := by decide +kernel

end ShapeFlow.Network
