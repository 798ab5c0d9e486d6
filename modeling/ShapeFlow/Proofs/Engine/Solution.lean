import ShapeFlow.Proofs.Engine.Construction
import ShapeFlow.Proofs.Engine.Propagation

/-!
What a propagation solves. Outputs of the layers, taken by name, lead to inputs through the
connections, and the rules have to give the outputs for the inputs. A propagation over a network that
has an order succeeds exactly if some outputs solve these equations, and its table then holds them:
a run in transactional mode is known by what it solves.
-/

namespace ShapeFlow.Propagator

/-- The shape at an input with the given source, or in its absence the declared one. -/
def arrive (outputs : String → List Shape) (source : Option Source) (declared : Shape) : Shape :=
  (source.bind fun source => (outputs source.layer)[source.port]?).getD declared

/-- The shapes at the inputs of a layer if the layers have the given outputs. -/
def arriving (network : Network) (outputs : String → List Shape) (layer : Layer) : List Shape :=
  List.zipWith (arrive outputs) (network.sourcesOf layer) layer.inputShapes

/-- Outputs by layer name that the rules give for the inputs they lead to. -/
structure Solves (network : Network) (registry : Registry) (overrides : Overrides)
    (outputs : String → List Shape) : Prop where
  accepts : ∀ layer ∈ network.layers, Accepts overrides layer
  inferred : ∀ layer ∈ network.layers, inferLayer registry layer
    ⟨arriving network outputs layer, startShapes overrides layer⟩ = .ok (outputs layer.name)

/-- The table that holds the given outputs and the inputs they lead to. -/
def tableOf (network : Network) (outputs : String → List Shape) : List LayerShapes :=
  network.layers.map fun layer => ⟨arriving network outputs layer, outputs layer.name⟩

/-- The layers that are done have the given outputs. -/
def Holds (network : Network) (outputs : String → List Shape) (done : List LayerId)
    (scratch : List LayerShapes) : Prop :=
  ∀ ⦃id : LayerId⦄ ⦃layer : Layer⦄ ⦃shapes : LayerShapes⦄, id ∈ done →
    network.layers[id]? = some layer → scratch[id]? = some shapes →
      shapes.outputs = outputs layer.name

section

variable {network : Network} {registry : Registry} {overrides : Overrides}
  {outputs : String → List Shape} {order done rest : List LayerId} {scratch : List LayerShapes}
  {id : LayerId} {layer : Layer} {shapes : LayerShapes}

theorem getElem?_arriving (network : Network) (outputs : String → List Shape) (layer : Layer)
    (port : Nat) : (arriving network outputs layer)[port]? =
      layer.inputShapes[port]?.map (arrive outputs (network.sourceOf? ⟨layer.id, port⟩)) := by
  rw [arriving, List.getElem?_zipWith]
  by_cases hport : port < layer.inputs.length
  · rw [network.getElem?_sourcesOf hport]
    cases layer.inputShapes[port]? <;> rfl
  · have hnone : layer.inputShapes[port]? = none :=
      List.getElem?_eq_none (by simpa [Layer.inputShapes] using hport)
    rw [hnone]
    cases (network.sourcesOf layer)[port]? <;> rfl

theorem accepts_of_propagate (hnetwork : network.WellFormed)
    (h : (propagate network registry overrides).outcome = .ok scratch) :
    ∀ layer ∈ network.layers, Accepts overrides layer := by
  simp only [propagate, Journal.outcome_bind, Journal.outcome_lift, bind_eq_ok_iff] at h
  obtain ⟨seeded, hseeded, -⟩ := h
  exact ((seed_eq_ok_iff hnetwork).1 hseeded).1

/-- A layer whose sources are done has the inputs to which their outputs lead. -/
theorem Progress.inputs_eq_arriving (hnetwork : network.WellFormed)
    (h : Progress network registry overrides done scratch)
    (hholds : Holds network outputs done scratch) (hlayer : network.layers[id]? = some layer)
    (hshapes : scratch[id]? = some shapes)
    (hsources : ∀ connection ∈ network.connections, connection.target.layer = id →
      connection.source.layer ∈ done) : shapes.inputs = arriving network outputs layer := by
  have hread : ∀ port, shapes.inputs[port]? = inputAt scratch ⟨id, port⟩ := by
    intro port
    rw [inputAt, hshapes, Option.bind_some]
  have hdeclared : ∀ port, network.inputShape? ⟨id, port⟩ = layer.inputShapes[port]? := by
    intro port
    simp only [Network.inputShape?, inputAt, Network.snapshot, List.getElem?_map, hlayer,
      Option.map_some, Option.bind_some, LayerShapes.ofLayer]
  apply List.ext_getElem?
  intro port
  rw [hread, getElem?_arriving, hnetwork.id_eq hlayer]
  cases hproducer : network.producerOf? ⟨id, port⟩ with
  | none =>
    have hunfed : inputAt scratch ⟨id, port⟩ = network.inputShape? ⟨id, port⟩ := by
      refine h.unfed fun connection hmem htarget => ?_
      rw [← htarget, hnetwork.producers_iff.2 hmem] at hproducer
      cases hproducer
    rw [hunfed, hdeclared, Network.sourceOf?, hproducer]
    cases layer.inputShapes[port]? <;> rfl
  | some producer =>
    have hmem := hnetwork.producers_iff.1 hproducer
    have hdone : producer.layer ∈ done := hsources _ hmem rfl
    obtain ⟨feeding, hfeeding, hlt⟩ := hnetwork.source_exists _ hmem
    obtain ⟨feedingShapes, hget, -, hcount⟩ := exists_shapes_of_count h.count_eq hfeeding
    have houtputs : feedingShapes.outputs = outputs feeding.name := hholds hdone hfeeding hget
    obtain ⟨shape, hshape⟩ : ∃ shape, (outputs feeding.name)[producer.port]? = some shape :=
      ⟨_, List.getElem?_eq_getElem (by rwa [← houtputs, hcount])⟩
    obtain ⟨target, htarget, hport⟩ := hnetwork.target_exists _ hmem
    rw [hlayer] at htarget
    cases htarget
    obtain ⟨declared, hsome⟩ : ∃ declared, layer.inputShapes[port]? = some declared :=
      ⟨_, List.getElem?_eq_getElem (by simpa [Layer.inputShapes] using hport)⟩
    calc inputAt scratch ⟨id, port⟩ = outputAt scratch producer := h.fed _ hmem hdone
      _ = some shape := by rw [outputAt, hget, Option.bind_some, houtputs, hshape]
      _ = layer.inputShapes[port]?.map (arrive outputs (network.sourceOf? ⟨id, port⟩)) := by
        rw [hsome, Network.sourceOf?, hproducer, Option.map_some, Option.map_some,
          Network.nameOf_eq hfeeding, arrive, Option.bind_some, hshape, Option.getD_some]

/-- At the end the table is known by its outputs. -/
theorem Progress.eq_tableOf (hnetwork : network.WellFormed) (hsorts : network.Sorts order)
    (h : Progress network registry overrides order scratch)
    (hholds : Holds network outputs order scratch) : scratch = tableOf network outputs := by
  apply List.ext_getElem?
  intro id
  rw [tableOf, List.getElem?_map]
  cases hlayer : network.layers[id]? with
  | none =>
    have hlength : scratch.length = network.layers.length := by
      simpa [Network.snapshot] using congrArg List.length h.count_eq
    rw [Option.map_none, List.getElem?_eq_none]
    rwa [hlength, ← List.getElem?_eq_none_iff]
  | some layer =>
    obtain ⟨shapes, hshapes, -, -⟩ := exists_shapes_of_count h.count_eq hlayer
    have hinputs : shapes.inputs = arriving network outputs layer := by
      refine h.inputs_eq_arriving hnetwork hholds hlayer hshapes fun connection hmem _ => ?_
      obtain ⟨feeding, hfeeding, -⟩ := hnetwork.source_exists connection hmem
      exact hsorts.mem_of_layer hfeeding
    have houtputs : shapes.outputs = outputs layer.name :=
      hholds (hsorts.mem_of_layer hlayer) hlayer hshapes
    rw [hshapes, Option.map_some, ← hinputs, ← houtputs]

theorem Progress.solves (hnetwork : network.WellFormed) (hsorts : network.Sorts order)
    (h : Progress network registry overrides order scratch)
    (hholds : Holds network outputs order scratch)
    (haccepts : ∀ layer ∈ network.layers, Accepts overrides layer) :
    Solves network registry overrides outputs where
  accepts := haccepts
  inferred := by
    intro layer hmem
    obtain ⟨id, hlayer⟩ := List.mem_iff_getElem?.1 hmem
    have hdone := hsorts.mem_of_layer hlayer
    have hshapes : scratch[id]? = some ⟨arriving network outputs layer, outputs layer.name⟩ := by
      rw [h.eq_tableOf hnetwork hsorts hholds, tableOf, List.getElem?_map, hlayer, Option.map_some]
    exact h.inferred hdone hlayer hshapes

/-- The outputs in a table, by the name of the layer. -/
def outputsIn (network : Network) (scratch : List LayerShapes) (name : String) : List Shape :=
  ((network.names.get? name >>= fun id => scratch[id]?).map LayerShapes.outputs).getD []

theorem holds_outputsIn (hnetwork : network.WellFormed) (done : List LayerId)
    (scratch : List LayerShapes) : Holds network (outputsIn network scratch) done scratch := by
  intro id layer shapes _ hlayer hshapes
  have hname : network.names.get? layer.name = some id := hnetwork.names_iff.2 ⟨layer, hlayer, rfl⟩
  simp only [outputsIn, hname, Option.bind_eq_bind, Option.bind_some, hshapes, Option.map_some,
    Option.getD_some]

/-- A layer gets the outputs of the solution once its sources have them. -/
theorem Solves.inferLayer_eq (hnetwork : network.WellFormed) (hsorts : network.Sorts order)
    (hsplit : order = done ++ id :: rest) (hsolves : Solves network registry overrides outputs)
    (h : Progress network registry overrides done scratch)
    (hholds : Holds network outputs done scratch) (hlayer : network.layers[id]? = some layer)
    (hshapes : scratch[id]? = some shapes) :
    inferLayer registry layer shapes = .ok (outputs layer.name) := by
  have hinputs : shapes.inputs = arriving network outputs layer :=
    h.inputs_eq_arriving hnetwork hholds hlayer hshapes (hsorts.source_mem hsplit)
  have hstart : shapes.outputs = startShapes overrides layer :=
    h.pending (hsorts.not_mem_done hsplit) hlayer hshapes
  calc inferLayer registry layer shapes
      = inferLayer registry layer ⟨arriving network outputs layer, startShapes overrides layer⟩ := by
        rw [← hinputs, ← hstart]
    _ = .ok (outputs layer.name) := hsolves.inferred layer (List.mem_of_getElem? hlayer)

theorem Holds.advance (hnetwork : network.WellFormed) (hsorts : network.Sorts order)
    (hsplit : order = done ++ id :: rest) (hholds : Holds network outputs done scratch)
    (hlayer : network.layers[id]? = some layer) :
    Holds network outputs (done ++ [id]) (advance network id (outputs layer.name) scratch) := by
  intro other layer' shapes' hother hlayer' hshapes'
  rw [getElem?_advance_of_sorts hnetwork hsorts hsplit hother] at hshapes'
  by_cases heq : id = other
  · subst heq
    rw [hlayer] at hlayer'
    cases hlayer'
    rw [if_pos rfl] at hshapes'
    obtain ⟨shapes, -, rfl⟩ := Option.map_eq_some_iff.1 hshapes'
    rfl
  · have hdone : other ∈ done := by simpa [Ne.symm heq] using hother
    rw [if_neg heq] at hshapes'
    exact hholds hdone hlayer' hshapes'

theorem Solves.step (hnetwork : network.WellFormed) (hsorts : network.Sorts order)
    (hsplit : order = done ++ id :: rest) (hsolves : Solves network registry overrides outputs)
    (h : Progress network registry overrides done scratch)
    (hholds : Holds network outputs done scratch) :
    ∃ next, (step network registry scratch id).outcome = .ok next ∧
      Progress network registry overrides (done ++ [id]) next ∧
        Holds network outputs (done ++ [id]) next := by
  obtain ⟨layer, hlayer⟩ := hsorts.exists_layer (by simp [hsplit] : id ∈ order)
  obtain ⟨shapes, hshapes, -, -⟩ := exists_shapes_of_count h.count_eq hlayer
  have hinferred := hsolves.inferLayer_eq hnetwork hsorts hsplit h hholds hlayer hshapes
  refine ⟨advance network id (outputs layer.name) scratch, ?_,
    h.advance hnetwork hsorts hsplit hlayer hshapes hinferred,
    hholds.advance hnetwork hsorts hsplit hlayer⟩
  rw [outcome_step hlayer hshapes, hinferred]
  rfl

/-- A propagation ends with the table of a solution. -/
theorem outcome_propagate_eq_ok_iff (hnetwork : network.WellFormed)
    (horder : network.topologicalOrder = .ok order) :
    (propagate network registry overrides).outcome = .ok scratch ↔
      ∃ outputs, Solves network registry overrides outputs ∧ scratch = tableOf network outputs := by
  have hsorts := hnetwork.sorts horder
  constructor
  · intro h
    obtain ⟨order', horder', hprogress⟩ := progress_of_propagate hnetwork h
    rw [horder, Except.ok.injEq] at horder'
    subst horder'
    have hholds := holds_outputsIn hnetwork order scratch
    exact ⟨outputsIn network scratch,
      hprogress.solves hnetwork hsorts hholds (accepts_of_propagate hnetwork h),
      hprogress.eq_tableOf hnetwork hsorts hholds⟩
  · rintro ⟨outputs, hsolves, rfl⟩
    have hstart : Progress network registry overrides [] (network.layers.map (start overrides)) ∧
        Holds network outputs [] (network.layers.map (start overrides)) :=
      ⟨.start hsolves.accepts, fun _ _ _ hmem => absurd hmem List.not_mem_nil⟩
    obtain ⟨last, hloop, hprogress, hholds⟩ := foldlM_total (fun done scratch =>
        Progress network registry overrides done scratch ∧ Holds network outputs done scratch)
      hstart fun done id rest state hsplit ⟨hstate, hheld⟩ =>
        hsolves.step hnetwork hsorts hsplit hstate hheld
    simp only [propagate, Journal.outcome_bind, Journal.outcome_lift,
      (seed_eq_ok_iff hnetwork).2 ⟨hsolves.accepts, rfl⟩, horder, EngineError.ofNetwork, ok_bind,
      Journal.outcome_foldlM, hloop, hprogress.eq_tableOf hnetwork hsorts hholds]

/-- What has been written to a layer is read off the table. -/
theorem ofLayer_of_snapshot {result : Network} (hsnapshot : result.snapshot = tableOf network outputs)
    (hlayer : network.layers[id]? = some layer) {after : Layer}
    (hafter : result.layers[id]? = some after) :
    after.inputShapes = arriving network outputs layer ∧ after.outputShapes = outputs layer.name := by
  have hid := congrArg (·[id]?) hsnapshot
  simp only [Network.snapshot, tableOf, List.getElem?_map, hlayer, hafter, Option.map_some,
    Option.some.injEq, LayerShapes.ofLayer, LayerShapes.mk.injEq] at hid
  exact hid

end

end ShapeFlow.Propagator

namespace ShapeFlow.Network

open Propagator

variable {network : Network} {registry : Registry} {overrides : Overrides}

/-- A run that succeeds has solved the equations of a network with an order. -/
theorem exists_solution_of_inferShapes (hnetwork : network.WellFormed)
    (hrun : (network.inferShapes registry ⟨.transactional, overrides⟩).journal.outcome = .ok ()) :
    (∃ order, network.topologicalOrder = .ok order) ∧
      ∃ outputs, Solves network registry overrides outputs := by
  obtain ⟨scratch, hpropagate⟩ :
      ∃ scratch, (propagate network registry overrides).outcome = .ok scratch := by
    cases hpropagate : (propagate network registry overrides).outcome with
    | ok scratch => exact ⟨scratch, rfl⟩
    | error cause => simp [inferShapes, inferTransactional, propagateInto_of_error hpropagate] at hrun
  obtain ⟨order, horder, -⟩ := progress_of_propagate hnetwork hpropagate
  obtain ⟨outputs, hsolves, -⟩ := (outcome_propagate_eq_ok_iff hnetwork horder).1 hpropagate
  exact ⟨⟨order, horder⟩, outputs, hsolves⟩

/-- A solution is what a run writes to the network. -/
theorem inferShapes_of_solves (hnetwork : network.WellFormed) {order : List LayerId}
    (horder : network.topologicalOrder = .ok order) {outputs : String → List Shape}
    (hsolves : Solves network registry overrides outputs) :
    ∃ result, (network.inferShapes registry ⟨.transactional, overrides⟩).journal.outcome = .ok () ∧
      (network.inferShapes registry ⟨.transactional, overrides⟩).network = result ∧
      result.skeleton = network.skeleton ∧ result.snapshot = tableOf network outputs := by
  have hpropagate := (outcome_propagate_eq_ok_iff hnetwork horder).2 ⟨outputs, hsolves, rfl⟩
  obtain ⟨result, hresult, hskeleton, hsnapshot⟩ := propagateInto_of_ok hnetwork hpropagate
  refine ⟨result, ?_, ?_, hskeleton, hsnapshot⟩ <;>
    simp only [inferShapes, inferTransactional, hresult]

end ShapeFlow.Network
