import ShapeFlow.Proofs.Engine.Scratch
import ShapeFlow.Proofs.Network.Built
import ShapeFlow.Proofs.Network.Order

/-!
What a propagation computes. Once a layer is done, every input it feeds holds the shape of the output
it is fed from, and neither its inputs nor its outputs are written again. At the end the whole
network is consistent, and its shapes are written at once.
-/

namespace ShapeFlow.Propagator

/-! ### The requested shapes -/

/-- The outputs of a layer before any shape is computed: a requested shape stands in for the only
output, unless the layer is a constant. -/
def startShapes (overrides : Overrides) (layer : Layer) : List Shape :=
  match overrides.get? layer.name with
  | some shape => if layer.isType "const" then layer.outputShapes else [shape]
  | none => layer.outputShapes

def start (overrides : Overrides) (layer : Layer) : LayerShapes :=
  ⟨layer.inputShapes, startShapes overrides layer⟩

/-- A layer whose shape is requested has a single output, unless it is a constant. -/
def Accepts (overrides : Overrides) (layer : Layer) : Prop :=
  ∀ shape, overrides.get? layer.name = some shape → layer.isType "const" = false →
    layer.outputs.length = 1

section

variable {network : Network} {registry : Registry} {overrides : Overrides}

theorem count_start {layer : Layer} (h : Accepts overrides layer) :
    (start overrides layer).count = (LayerShapes.ofLayer layer).count := by
  simp only [start, startShapes, LayerShapes.count, LayerShapes.ofLayer, Prod.mk.injEq, true_and]
  cases hshape : overrides.get? layer.name with
  | none => rfl
  | some shape =>
    by_cases hconst : layer.isType "const" = true
    · simp [hconst]
    · have hsingle := h shape hshape (by simpa using hconst)
      simp [hconst, Layer.outputShapes, hsingle]

theorem seedLayer_eq_ok_iff {scratch next : List LayerShapes} {layer : Layer}
    (hlayer : scratch[layer.id]? = some (.ofLayer layer)) :
    seedLayer overrides scratch layer = .ok next ↔
      Accepts overrides layer ∧ next = scratch.set layer.id (start overrides layer) := by
  have hkept : scratch.set layer.id ⟨layer.inputShapes, layer.outputShapes⟩ = scratch := by
    obtain ⟨hlt, hget⟩ := List.getElem?_eq_some_iff.1 hlayer
    calc scratch.set layer.id ⟨layer.inputShapes, layer.outputShapes⟩
        = scratch.set layer.id scratch[layer.id] := by rw [hget, LayerShapes.ofLayer]
      _ = scratch := List.set_getElem_self hlt
  unfold seedLayer Accepts start startShapes
  cases hshape : overrides.get? layer.name with
  | none => simp [hkept, @eq_comm _ next]
  | some shape =>
    cases hconst : layer.isType "const" with
    | true => simp [hkept, @eq_comm _ next]
    | false =>
      by_cases hsingle : layer.outputs.length = 1
      · have hset : layer.outputShapes.set 0 shape = [shape] := by
          obtain ⟨port, hport⟩ := List.length_eq_one_iff.1 hsingle
          simp [Layer.outputShapes, hport]
        have hmodify : ∀ change : LayerShapes → LayerShapes, scratch.modify layer.id change =
            scratch.set layer.id (change (.ofLayer layer)) := by
          intro change
          rw [List.modify_eq_set_getElem?, hlayer]
          rfl
        simp [hmodify, hsingle, LayerShapes.ofLayer, hset, @eq_comm _ next]
      · simp [hsingle]

/-- The requests are accepted together, and every layer then stands as it starts. -/
theorem seed_eq_ok_iff (hnetwork : network.WellFormed) {seeded : List LayerShapes} :
    seed network overrides = .ok seeded ↔
      (∀ layer ∈ network.layers, Accepts overrides layer) ∧
        seeded = network.layers.map (start overrides) := by
  suffices ∀ rest done, network.layers = done ++ rest →
      (rest.foldlM (seedLayer overrides)
        (done.map (start overrides) ++ rest.map LayerShapes.ofLayer) = .ok seeded ↔
      (∀ layer ∈ rest, Accepts overrides layer) ∧
        seeded = network.layers.map (start overrides)) from this network.layers [] rfl
  intro rest
  induction rest with
  | nil =>
    intro done hlayers
    simp [hlayers, pure, Except.pure, eq_comm]
  | cons layer rest ih =>
    intro done hlayers
    have hid : layer.id = done.length := hnetwork.id_eq (by simp [hlayers])
    have hlayer : (done.map (start overrides) ++
        (layer :: rest).map LayerShapes.ofLayer)[layer.id]? = some (.ofLayer layer) := by
      simp [hid]
    have hset : (done.map (start overrides) ++ (layer :: rest).map LayerShapes.ofLayer).set
        layer.id (start overrides layer) =
          (done ++ [layer]).map (start overrides) ++ rest.map LayerShapes.ofLayer := by
      simp [hid]
    rw [List.foldlM_cons, bind_eq_ok_iff]
    simp only [seedLayer_eq_ok_iff hlayer, hset, List.forall_mem_cons]
    constructor
    · rintro ⟨_, ⟨haccepts, rfl⟩, hrest⟩
      obtain ⟨hrest, hseeded⟩ := (ih (done ++ [layer]) (by simp [hlayers])).1 hrest
      exact ⟨⟨haccepts, hrest⟩, hseeded⟩
    · rintro ⟨⟨haccepts, hrest⟩, hseeded⟩
      exact ⟨_, ⟨haccepts, rfl⟩, (ih (done ++ [layer]) (by simp [hlayers])).2 ⟨hrest, hseeded⟩⟩

theorem count_seeded (h : ∀ layer ∈ network.layers, Accepts overrides layer) :
    (network.layers.map (start overrides)).map LayerShapes.count =
      network.snapshot.map LayerShapes.count := by
  rw [Network.snapshot, List.map_map, List.map_map, List.map_inj_left]
  exact fun layer hlayer => count_start (h layer hlayer)

end

/-! ### One layer -/

/-- The table after a layer has got its outputs and handed them on. -/
def advance (network : Network) (id : LayerId) (outputs : List Shape) (scratch : List LayerShapes) :
    List LayerShapes :=
  (feedAll network id outputs scratch).modify id fun shapes => { shapes with outputs := outputs }

section

variable {network : Network} {registry : Registry} {overrides : Overrides} {id other : LayerId}
  {layer : Layer} {shapes : LayerShapes} {scratch : List LayerShapes} {outputs : List Shape}

theorem inferLayer_eq_ok_iff : inferLayer registry layer shapes = .ok outputs ↔
    ∃ rule, registry.get? layer.typeName = some rule ∧
      rule (ruleInputs layer shapes) layer.params layer.blobs = .ok outputs ∧
        outputs.length = layer.outputs.length := by
  unfold inferLayer Registry.lookup
  cases registry.get? layer.typeName with
  | none => simp
  | some rule =>
    simp only [ok_bind, Option.some.injEq, exists_eq_left']
    cases rule (ruleInputs layer shapes) layer.params layer.blobs with
    | error cause => simp
    | ok outputs' =>
      by_cases hlength : outputs'.length = layer.outputs.length
      · simp only [hlength, if_true, Except.ok.injEq]
        exact ⟨fun heq => ⟨heq, heq ▸ hlength⟩, And.left⟩
      · simp only [hlength, if_false, reduceCtorEq, false_iff, Except.ok.injEq]
        rintro ⟨rfl, heq⟩
        exact hlength heq

theorem length_of_inferLayer (h : inferLayer registry layer shapes = .ok outputs) :
    outputs.length = layer.outputs.length := by
  obtain ⟨_, -, -, hlength⟩ := inferLayer_eq_ok_iff.1 h
  exact hlength

theorem outcome_step (hlayer : network.layers[id]? = some layer) (hshapes : scratch[id]? = some shapes) :
    (step network registry scratch id).outcome =
      (fun outputs => advance network id outputs scratch) <$> inferLayer registry layer shapes := by
  simp only [step, Journal.outcome_bind, Journal.outcome_lift, Journal.outcome_note,
    Journal.outcome_pure, Network.layer_eq_ok_iff.2 hlayer, EngineError.ofNetwork, ok_bind, hshapes,
    Option.getD_some]
  cases inferLayer registry layer shapes <;> rfl

theorem getElem?_advance (other : LayerId) :
    (advance network id outputs scratch)[other]? =
      if id = other then
        (feedAll network id outputs scratch)[other]?.map fun shapes =>
          { shapes with outputs := outputs }
      else (feedAll network id outputs scratch)[other]? := by
  rw [advance, List.getElem?_modify]
  split <;> simp

theorem inputAt_advance (input : PortRef) :
    inputAt (advance network id outputs scratch) input =
      inputAt (feedAll network id outputs scratch) input := by
  simp only [inputAt, getElem?_advance]
  split <;> cases (feedAll network id outputs scratch)[input.layer]? <;> rfl

theorem inputAt_advance_of_not_source (hnetwork : network.WellFormed) {input : PortRef}
    (h : ∀ source, network.producerOf? input = some source → source.layer ≠ id) :
    inputAt (advance network id outputs scratch) input = inputAt scratch input := by
  rw [inputAt_advance, inputAt_feedAll_of_not_fed]
  exact fun port hmem => h _ (hnetwork.mem_consumersOf_iff.1 hmem) rfl

theorem outputs_advance (other : LayerId) :
    (advance network id outputs scratch)[other]?.map LayerShapes.outputs =
      if id = other then scratch[other]?.map fun _ => outputs
      else scratch[other]?.map LayerShapes.outputs := by
  have hfed := congrArg (·[other]?) (map_outputs_feedAll network id outputs scratch)
  simp only [List.getElem?_map] at hfed
  rw [getElem?_advance]
  split
  · have hsome := congrArg (Option.map fun _ => outputs) hfed
    simpa only [Option.map_map, Function.comp_def] using hsome
  · exact hfed

theorem outputAt_advance (output : PortRef) :
    outputAt (advance network id outputs scratch) output =
      if id = output.layer then scratch[output.layer]?.bind fun _ => outputs[output.port]?
      else outputAt scratch output := by
  have hbind : ∀ table : List LayerShapes, outputAt table output =
      (table[output.layer]?.map LayerShapes.outputs).bind (·[output.port]?) := by
    intro table
    rw [outputAt]
    cases table[output.layer]? <;> rfl
  rw [hbind, outputs_advance, hbind]
  split <;> cases scratch[output.layer]? <;> rfl

theorem count_advance (hshapes : scratch[id]? = some shapes)
    (hlength : outputs.length = shapes.outputs.length) :
    (advance network id outputs scratch).map LayerShapes.count =
      scratch.map LayerShapes.count := by
  rw [← map_count_feedAll network id outputs scratch]
  apply List.ext_getElem?
  intro other
  have hfed := congrArg (·[other]?) (map_outputs_feedAll network id outputs scratch)
  simp only [List.getElem?_map] at hfed
  simp only [List.getElem?_map, getElem?_advance]
  split
  · next heq =>
    subst heq
    rw [hshapes] at hfed
    obtain ⟨fed, hget, houtputs⟩ := Option.map_eq_some_iff.1 hfed
    simp [hget, LayerShapes.count, houtputs, hlength]
  · rfl

theorem exists_shapes_of_count
    (h : scratch.map LayerShapes.count = network.snapshot.map LayerShapes.count)
    (hlayer : network.layers[id]? = some layer) :
    ∃ shapes, scratch[id]? = some shapes ∧ shapes.inputs.length = layer.inputs.length ∧
      shapes.outputs.length = layer.outputs.length := by
  have hcount := congrArg (·[id]?) h
  simp only [Network.snapshot, List.getElem?_map, hlayer, Option.map_some] at hcount
  obtain ⟨shapes, hshapes, heq⟩ := Option.map_eq_some_iff.1 hcount
  simp only [LayerShapes.count, LayerShapes.ofLayer, Layer.inputShapes, Layer.outputShapes,
    List.length_map, Prod.mk.injEq] at heq
  exact ⟨shapes, hshapes, heq.1, heq.2⟩

/-- An input that the layer feeds gets the shape of the output. -/
theorem inputAt_advance_of_source (hnetwork : network.WellFormed)
    (hcount : scratch.map LayerShapes.count = network.snapshot.map LayerShapes.count)
    (hlayer : network.layers[id]? = some layer) (hlength : outputs.length = layer.outputs.length)
    {connection : Connection} (hmem : connection ∈ network.connections)
    (hsource : connection.source.layer = id) :
    inputAt (advance network id outputs scratch) connection.target =
      outputAt (advance network id outputs scratch) connection.source := by
  subst hsource
  obtain ⟨source, hget, hport⟩ := hnetwork.source_exists connection hmem
  rw [hlayer] at hget
  cases hget
  obtain ⟨shapes, hshapes, -, -⟩ := exists_shapes_of_count hcount hlayer
  obtain ⟨target, htarget, hinput⟩ := hnetwork.target_exists connection hmem
  obtain ⟨targetShapes, htargetShapes, hinputs, -⟩ := exists_shapes_of_count hcount htarget
  have hsome : (inputAt scratch connection.target).isSome := by
    simp [inputAt, htargetShapes, hinputs, hinput]
  have hshape : outputs[connection.source.port]? = some outputs[connection.source.port] :=
    List.getElem?_eq_getElem (hlength ▸ hport)
  rw [inputAt_advance, inputAt_feedAll_of_fed hnetwork (hnetwork.producers_iff.2 hmem) hshape hsome,
    outputAt_advance, if_pos rfl, hshapes, Option.bind_some, hshape]

end

/-! ### All layers -/

/-- What the table holds once some layers are done. -/
structure Progress (network : Network) (registry : Registry) (overrides : Overrides)
    (done : List LayerId) (scratch : List LayerShapes) : Prop where
  count_eq : scratch.map LayerShapes.count = network.snapshot.map LayerShapes.count
  /-- Inputs fed by a layer that is done hold what it gives them. -/
  fed : ∀ connection ∈ network.connections, connection.source.layer ∈ done →
    inputAt scratch connection.target = outputAt scratch connection.source
  /-- All other inputs are as they were. -/
  unfed : ∀ {input : PortRef}, (∀ connection ∈ network.connections, connection.target = input →
    connection.source.layer ∉ done) → inputAt scratch input = network.inputShape? input
  /-- Layers that are not done have the outputs they start with. -/
  pending : ∀ {id : LayerId} {layer : Layer} {shapes : LayerShapes}, id ∉ done →
    network.layers[id]? = some layer → scratch[id]? = some shapes →
      shapes.outputs = startShapes overrides layer
  /-- Layers that are done have the outputs that their inputs lead to. -/
  inferred : ∀ {id : LayerId} {layer : Layer} {shapes : LayerShapes}, id ∈ done →
    network.layers[id]? = some layer → scratch[id]? = some shapes →
      inferLayer registry layer { shapes with outputs := startShapes overrides layer } =
        .ok shapes.outputs

section

variable {network : Network} {registry : Registry} {overrides : Overrides}

theorem Progress.start (haccepts : ∀ layer ∈ network.layers, Accepts overrides layer) :
    Progress network registry overrides [] (network.layers.map (start overrides)) where
  count_eq := count_seeded haccepts
  fed := by simp
  unfed := by
    intro input _
    simp only [Network.inputShape?, inputAt, Network.snapshot, List.getElem?_map]
    cases network.layers[input.layer]? <;> rfl
  pending := by
    intro id layer shapes _ hlayer hshapes
    rw [List.getElem?_map, hlayer] at hshapes
    cases hshapes
    rfl
  inferred := by simp

/-- Advancing a layer leaves the layers before it alone, and gives the layer itself its outputs. -/
theorem getElem?_advance_of_sorts (hnetwork : network.WellFormed) {order done rest : List LayerId}
    {id other : LayerId} (hsorts : network.Sorts order) (horder : order = done ++ id :: rest)
    (hother : other ∈ done ++ [id]) (outputs : List Shape) (scratch : List LayerShapes) :
    (advance network id outputs scratch)[other]? =
      if id = other then scratch[other]?.map fun shapes => { shapes with outputs := outputs }
      else scratch[other]? := by
  rw [getElem?_advance, getElem?_feedAll_of_not_fed]
  rintro port target htarget rfl
  have hmem := hnetwork.producers_iff.1 (hnetwork.mem_consumersOf_iff.1 htarget)
  exact hsorts.target_not_mem horder hmem rfl hother

theorem Progress.advance (hnetwork : network.WellFormed) {order done rest : List LayerId}
    {id : LayerId} (hsorts : network.Sorts order) (horder : order = done ++ id :: rest)
    {scratch : List LayerShapes} (h : Progress network registry overrides done scratch)
    {layer : Layer} {shapes : LayerShapes} {outputs : List Shape}
    (hlayer : network.layers[id]? = some layer) (hshapes : scratch[id]? = some shapes)
    (houtputs : inferLayer registry layer shapes = .ok outputs) :
    Progress network registry overrides (done ++ [id]) (advance network id outputs scratch) := by
  have hfresh := hsorts.not_mem_done horder
  have hstart : shapes.outputs = startShapes overrides layer := h.pending hfresh hlayer hshapes
  have hlength := length_of_inferLayer houtputs
  have hcount : outputs.length = shapes.outputs.length := by
    obtain ⟨shapes', hshapes', -, heq⟩ := exists_shapes_of_count h.count_eq hlayer
    rw [hshapes] at hshapes'
    cases hshapes'
    rw [hlength, heq]
  refine ⟨(count_advance hshapes hcount).trans h.count_eq, ?_, ?_, ?_, ?_⟩
  · intro connection hmem hsource
    by_cases heq : connection.source.layer = id
    · exact inputAt_advance_of_source hnetwork h.count_eq hlayer hlength hmem heq
    · have hdone : connection.source.layer ∈ done := by simpa [heq] using hsource
      rw [outputAt_advance, if_neg (Ne.symm heq), ← h.fed connection hmem hdone]
      refine inputAt_advance_of_not_source hnetwork fun source hproducer => ?_
      rw [hnetwork.producers_iff.2 hmem] at hproducer
      cases hproducer
      exact heq
  · intro input hsources
    rw [inputAt_advance_of_not_source hnetwork]
    · exact h.unfed fun connection hmem htarget hdone =>
        hsources connection hmem htarget (List.mem_append_left _ hdone)
    · intro source hsource heq
      exact hsources ⟨source, input⟩ (hnetwork.producers_iff.1 hsource) rfl (by simp [heq])
  · intro other layer' shapes' hother hlayer' hshapes'
    obtain ⟨hdone, hne⟩ : other ∉ done ∧ other ≠ id := by simpa using hother
    have hkept := @outputs_advance network id scratch outputs other
    rw [hshapes', if_neg (Ne.symm hne)] at hkept
    obtain ⟨before, hbefore, hsame⟩ := Option.map_eq_some_iff.1 hkept.symm
    rw [← hsame]
    exact h.pending hdone hlayer' hbefore
  · intro other layer' shapes' hother hlayer' hshapes'
    rw [getElem?_advance_of_sorts hnetwork hsorts horder hother] at hshapes'
    by_cases heq : other = id
    · subst heq
      rw [hlayer] at hlayer'
      cases hlayer'
      rw [if_pos rfl, hshapes] at hshapes'
      cases hshapes'
      rwa [← hstart]
    · have hdone : other ∈ done := by simpa [heq] using hother
      rw [if_neg (Ne.symm heq)] at hshapes'
      exact h.inferred hdone hlayer' hshapes'

theorem progress_of_propagate (hnetwork : network.WellFormed) {scratch : List LayerShapes}
    (h : (propagate network registry overrides).outcome = .ok scratch) :
    ∃ order, network.topologicalOrder = .ok order ∧
      Progress network registry overrides order scratch := by
  simp only [propagate, Journal.outcome_bind, Journal.outcome_lift, bind_eq_ok_iff,
    EngineError.ofNetwork_eq_ok_iff, Journal.outcome_foldlM] at h
  obtain ⟨seeded, hseeded, order, horder, hlast⟩ := h
  obtain ⟨haccepts, rfl⟩ := (seed_eq_ok_iff hnetwork).1 hseeded
  have hsorts := hnetwork.sorts horder
  refine ⟨order, horder, foldlM_invariant (Progress network registry overrides)
    (.start haccepts) ?_ hlast⟩
  intro done id rest state next hitems hstate hnext
  obtain ⟨layer, hlayer⟩ := hsorts.exists_layer (by simp [hitems] : id ∈ order)
  obtain ⟨shapes, hshapes, -, -⟩ := exists_shapes_of_count hstate.count_eq hlayer
  rw [outcome_step hlayer hshapes] at hnext
  obtain ⟨outputs, houtputs, rfl⟩ := map_eq_ok_iff.1 hnext
  exact hstate.advance hnetwork hsorts hitems hlayer hshapes houtputs

/-! ### A run -/

/-- A network with consistent shapes, made from another one by changing shapes only. -/
structure Consistent (network : Network) (registry : Registry) (overrides : Overrides)
    (result : Network) : Prop where
  skeleton_eq : result.skeleton = network.skeleton
  /-- An input has the shape of the output that feeds it. -/
  connected : ∀ connection ∈ network.connections, ∃ shape,
    result.inputShape? connection.target = some shape ∧
      result.outputShape? connection.source = some shape
  unconnected : ∀ {input : PortRef}, (∀ connection ∈ network.connections,
    connection.target ≠ input) → result.inputShape? input = network.inputShape? input
  /-- The outputs of a layer are what its rule gives for its inputs, or in their absence for the
  outputs it started with. -/
  inferred : ∀ {id : LayerId} {layer final : Layer}, network.layers[id]? = some layer →
    result.layers[id]? = some final → ∃ rule, registry.get? layer.typeName = some rule ∧
      rule (if layer.inputs.isEmpty then startShapes overrides layer else final.inputShapes)
        layer.params layer.blobs = .ok final.outputShapes

theorem Progress.consistent (hnetwork : network.WellFormed) {order : List LayerId}
    (hsorts : network.Sorts order) {scratch : List LayerShapes}
    (h : Progress network registry overrides order scratch) {result : Network}
    (hskeleton : result.skeleton = network.skeleton) (hscratch : result.snapshot = scratch) :
    Consistent network registry overrides result where
  skeleton_eq := hskeleton
  connected := by
    intro connection hmem
    obtain ⟨source, hsource, hport⟩ := hnetwork.source_exists connection hmem
    obtain ⟨shapes, hshapes, -, houtputs⟩ := exists_shapes_of_count h.count_eq hsource
    have hdone : connection.source.layer ∈ order := hsorts.mem_of_layer hsource
    obtain ⟨shape, hshape⟩ : ∃ shape, outputAt scratch connection.source = some shape :=
      ⟨_, by rw [outputAt, hshapes]; exact List.getElem?_eq_getElem (houtputs ▸ hport)⟩
    refine ⟨shape, ?_, ?_⟩
    · rw [Network.inputShape?, hscratch, h.fed connection hmem hdone, hshape]
    · rw [Network.outputShape?, hscratch, hshape]
  unconnected := by
    intro input hinput
    rw [Network.inputShape?, hscratch]
    exact h.unfed fun connection hmem htarget => absurd htarget (hinput connection hmem)
  inferred := by
    intro id layer final hlayer hfinal
    have hdone : id ∈ order := hsorts.mem_of_layer hlayer
    have hshapes : scratch[id]? = some (.ofLayer final) := by
      rw [← hscratch, Network.snapshot, List.getElem?_map, hfinal, Option.map_some]
    obtain ⟨rule, hrule, houtputs, -⟩ :=
      inferLayer_eq_ok_iff.1 (h.inferred hdone hlayer hshapes)
    exact ⟨rule, hrule, houtputs⟩

theorem propagateInto_of_error {cause : EngineError}
    (h : (propagate network registry overrides).outcome = .error cause) :
    (propagateInto network registry overrides).outcome = .error cause := by
  simp [propagateInto, h]

/-- The shapes of a finished propagation fit the network, so that writing them is not refused. -/
theorem propagateInto_of_ok (hnetwork : network.WellFormed) {scratch : List LayerShapes}
    (h : (propagate network registry overrides).outcome = .ok scratch) :
    ∃ result, (propagateInto network registry overrides).outcome = .ok result ∧
      result.skeleton = network.skeleton ∧ result.snapshot = scratch := by
  obtain ⟨order, -, hprogress⟩ := progress_of_propagate hnetwork h
  obtain ⟨result, happly, hscratch⟩ := Network.applyShapes_of_count hprogress.count_eq
  refine ⟨result, ?_, Network.skeleton_applyShapes happly, hscratch⟩
  simp only [propagateInto, Journal.outcome_bind, h, happly, EngineError.ofNetwork, ok_bind,
    Journal.outcome_lift, Journal.outcome_note, Journal.outcome_pure]

/-- A run either fails and leaves the network as it is, or leaves it with consistent shapes. -/
theorem run_atomic (hnetwork : network.Built) (registry : Registry) (overrides : Overrides) :
    (∃ cause, (((ofRegistry registry).bind network).run overrides).outcome = .error cause ∧
      (network.inferTransactional registry overrides).journal.outcome = .error cause ∧
      (network.inferTransactional registry overrides).network = network) ∨
    ∃ result, (((ofRegistry registry).bind network).run overrides).outcome =
        .ok ((ofRegistry registry).bind result) ∧
      (network.inferTransactional registry overrides).journal.outcome = .ok () ∧
      (network.inferTransactional registry overrides).network = result ∧
      Consistent network registry overrides result := by
  have hrun : (((ofRegistry registry).bind network).run overrides).outcome =
      (ofRegistry registry).bind <$> (propagateInto network registry overrides).outcome := by
    simp only [run, bind, ofRegistry, Journal.outcome_bind, Journal.outcome_pure]
    cases (propagateInto network registry overrides).outcome <;> rfl
  simp only [hrun, Network.inferTransactional]
  cases hpropagate : (propagate network registry overrides).outcome with
  | error cause =>
    rw [propagateInto_of_error hpropagate]
    exact .inl ⟨cause, rfl, rfl, rfl⟩
  | ok scratch =>
    obtain ⟨order, horder, hprogress⟩ := progress_of_propagate hnetwork.wellFormed hpropagate
    obtain ⟨result, hresult, hskeleton, hscratch⟩ :=
      propagateInto_of_ok hnetwork.wellFormed hpropagate
    rw [hresult]
    exact .inr ⟨result, rfl, rfl, rfl, hprogress.consistent hnetwork.wellFormed
      (hnetwork.wellFormed.sorts horder) hskeleton hscratch⟩

end

theorem sample_consistent : Consistent .sample .builtIn Network.sampleRequest
    (Network.sample.inferTransactional .builtIn Network.sampleRequest).network := by
  rcases run_atomic Network.built_sample .builtIn Network.sampleRequest with
    ⟨cause, -, hrefused, -⟩ | ⟨result, -, -, hresult, hconsistent⟩
  · have hdone : (Network.sample.inferTransactional .builtIn
        Network.sampleRequest).journal.outcome = .ok () := by
      decide +kernel
    rw [hdone] at hrefused
    cases hrefused
  · rwa [hresult]

end ShapeFlow.Propagator
