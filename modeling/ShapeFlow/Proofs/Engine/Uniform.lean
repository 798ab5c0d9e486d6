import ShapeFlow.Proofs.Dictionary
import ShapeFlow.Proofs.Engine.Acceptance
import ShapeFlow.Proofs.Engine.Agreement
import ShapeFlow.Proofs.Engine.FixedPoint
import ShapeFlow.Proofs.Engine.Solution

/-!
Graphs that hand one shape on. If an input has one shape and every other layer gives the common shape
of its inputs, that shape at every output solves the graph; both engines find the solution, and so a
request reaches every port, over any fan-out and any joins.
-/

namespace ShapeFlow

theorem Dictionary.get?_insert_empty {ν : Type} (key other : String) (value : ν) :
    (Dictionary.empty.insert key value).get? other = if other = key then some value else none := by
  rw [get?_insert, get?_empty]

/-- A layer inside a graph that hands one shape on: it is fed at every input, and has the first of its
input shapes, or the one they have in common, at its only output. -/
structure Layer.Passes (network : Network) (layer : Layer) : Prop where
  not_flagged : layer.isNetworkInput = false
  rule_mem : Caseless.lower layer.typeName ∈ Rule.identityTypes ∨ layer.isType "eltwise" = true
  length_outputs : layer.outputs.length = 1
  inputs_ne_nil : layer.inputs ≠ []
  connected : ∀ port < layer.inputs.length,
    ∃ connection ∈ network.connections, connection.target = ⟨layer.id, port⟩

namespace Network

/-- A graph without a cycle in which one input, with one output of its name, feeds layers that hand its
shape on. -/
structure ShapePreserving (network : Network) (source : Layer) : Prop where
  acyclic : ∀ id, ¬ network.OnCycle id
  source_mem : source ∈ network.layers
  source_type : source.isType "input" = true
  source_inputs : source.inputs = []
  source_outputs : source.outputs.map Port.name = [source.name]
  passes : ∀ layer ∈ network.layers, layer ≠ source → layer.Passes network

/-- Every input and output has the shape. -/
def Uniform (network : Network) (shape : Shape) : Prop :=
  ∀ layer ∈ network.layers, (∀ port ∈ layer.inputs, port.shape = shape) ∧
    ∀ port ∈ layer.outputs, port.shape = shape

end Network

/-! ### One layer -/

namespace Layer

variable {network : Network} {layer : Layer} {shape : Shape}

/-- The rule of the layer gives the shape that all inputs have. -/
theorem Passes.exists_rule (h : layer.Passes network) (shape : Shape) :
    ∃ rule, Registry.builtIn.get? layer.typeName = some rule ∧
      ∀ count params blobs, 0 < count →
        rule (List.replicate count shape) params blobs = .ok [shape] := by
  have hfirst : ∀ {count : Nat}, 0 < count →
      Rule.firstInput (List.replicate count shape) = .ok shape := by
    intro count hcount
    obtain ⟨rest, rfl⟩ := Nat.exists_eq_add_of_lt hcount
    rw [Nat.zero_add, List.replicate_succ, Rule.firstInput]
  rw [Registry.get?_builtIn]
  rcases h.rule_mem with hidentity | heltwise
  · refine ⟨Rule.identity, if_pos hidentity, fun count params blobs hcount => ?_⟩
    rw [Rule.identity, hfirst hcount, ok_bind]
  · refine ⟨Rule.eltwise, (Registry.builtIn?_congr heltwise).trans rfl, ?_⟩
    intro count params blobs hcount
    have hnone : (List.replicate count shape).find? (· != shape) = none := by
      simp
    rw [Rule.eltwise, hfirst hcount, ok_bind, hnone]

theorem Passes.isType_eq_false (h : layer.Passes network) {typeName : String}
    (hidentity : Caseless.lower typeName ∉ Rule.identityTypes)
    (heltwise : Caseless.eq "eltwise" typeName = false) : layer.isType typeName = false := by
  rcases h.rule_mem with hmem | htype
  · rw [isType, Caseless.eq, beq_eq_false_iff_ne]
    exact fun heq => hidentity (heq ▸ hmem)
  · exact isType_disjoint htype heltwise

theorem Passes.suitsInside (h : layer.Passes network) : layer.SuitsInside := by
  refine ⟨h.isType_eq_false (by decide) (by decide), h.isType_eq_false (by decide) (by decide), ?_⟩
  rw [h.isType_eq_false (by decide) (by decide)]
  exact fun hmemory => nomatch hmemory

end Layer

namespace Network.ShapePreserving

variable {network result : Network} {source layer : Layer} {overrides : Overrides} {shape : Shape}
  {id : LayerId}

theorem length_outputs (h : network.ShapePreserving source) (hmem : layer ∈ network.layers) :
    layer.outputs.length = 1 := by
  by_cases heq : layer = source
  · rw [heq]
    simpa using congrArg List.length h.source_outputs
  · exact (h.passes layer hmem heq).length_outputs

theorem isType_eq_false (h : network.ShapePreserving source) (hmem : layer ∈ network.layers)
    {typeName : String} (hidentity : Caseless.lower typeName ∉ Rule.identityTypes)
    (heltwise : Caseless.eq "eltwise" typeName = false)
    (hinput : Caseless.eq "input" typeName = false) : layer.isType typeName = false := by
  by_cases heq : layer = source
  · exact heq ▸ Layer.isType_disjoint h.source_type hinput
  · exact (h.passes layer hmem heq).isType_eq_false hidentity heltwise

/-- The input is the only layer at the start of the graph. -/
theorem starts_iff (h : network.ShapePreserving source) (hnetwork : network.WellFormed)
    (hlayer : network.layers[id]? = some layer) : network.Starts layer ↔ layer = source := by
  constructor
  · rintro hstarts
    by_contra hne
    have hpasses := h.passes layer (List.mem_of_getElem? hlayer) hne
    rcases hstarts with hflag | hunfed
    · rw [hpasses.not_flagged] at hflag
      cases hflag
    · obtain ⟨connection, hconnection, htarget⟩ :=
        hpasses.connected 0 (List.length_pos_iff.2 hpasses.inputs_ne_nil)
      exact hunfed connection hconnection (congrArg PortRef.layer htarget)
  · rintro rfl
    right
    intro connection hconnection htarget
    obtain ⟨fed, hfed, hport⟩ := hnetwork.target_exists connection hconnection
    rw [htarget, hnetwork.id_eq hlayer, hlayer, Option.some.injEq] at hfed
    rw [← hfed, h.source_inputs] at hport
    exact absurd hport (Nat.not_lt_zero _)

theorem mem_inputLayers_iff (h : network.ShapePreserving source) (hnetwork : network.WellFormed)
    (hmem : layer ∈ network.layers) : layer.id ∈ network.inputLayers ↔ layer = source := by
  obtain ⟨id, hlayer⟩ := List.mem_iff_getElem?.1 hmem
  rw [hnetwork.id_eq hlayer, hnetwork.mem_inputLayers_iff_starts hlayer,
    h.starts_iff hnetwork hlayer]

theorem accepted (h : network.ShapePreserving source) (hnetwork : network.WellFormed) :
    network.Accepted where
  layers_ne_nil := List.ne_nil_of_mem h.source_mem
  acyclic := h.acyclic
  starts := by
    intro layer hmem hstarts
    obtain ⟨id, hlayer⟩ := List.mem_iff_getElem?.1 hmem
    rw [(h.starts_iff hnetwork hlayer).1 hstarts]
    exact .inl h.source_type
  inside := by
    intro layer hmem hinside
    obtain ⟨id, hlayer⟩ := List.mem_iff_getElem?.1 hmem
    exact (h.passes layer hmem (mt (h.starts_iff hnetwork hlayer).2 hinside)).suitsInside

theorem comparable (h : network.ShapePreserving source) (hnetwork : network.WellFormed)
    (hrequests : ∀ name, name ≠ source.name → overrides.get? name = none) :
    Comparable network .builtIn overrides where
  extended := .builtIn
  buildable := (Reshaper.exists_build_iff hnetwork).2 (h.accepted hnetwork)
  registered := by
    intro layer hmem hinside
    have hne : layer ≠ source := mt (h.mem_inputLayers_iff hnetwork hmem).2 hinside
    obtain ⟨rule, hrule, -⟩ := (h.passes layer hmem hne).exists_rule []
    rw [Registry.get?] at hrule
    rw [Registry.contains, Table.contains_eq, hrule, Option.isSome_some]
  inputs_eq := by
    intro layer hmem hinput
    rw [(h.mem_inputLayers_iff hnetwork hmem).1 hinput, h.source_inputs]
  outputs_eq := by
    intro layer hmem hinput _
    rw [(h.mem_inputLayers_iff hnetwork hmem).1 hinput, h.source_outputs]
  constant_eq := by
    intro layer hmem hconst
    rw [h.isType_eq_false hmem (by decide) (by decide) (by decide)] at hconst
    cases hconst
  memory_eq := by
    intro layer hmem hmemory
    rw [h.isType_eq_false hmem (by decide) (by decide) (by decide)] at hmemory
    cases hmemory
  requests := by
    intro layer hmem hinside
    have hne : layer ≠ source := mt (h.mem_inputLayers_iff hnetwork hmem).2 hinside
    exact hrequests layer.name fun hname => hne (hnetwork.eq_of_name_eq hmem h.source_mem hname)

/-- If every output has the shape, it arrives at every input. -/
theorem arriving_eq (h : network.ShapePreserving source) (hnetwork : network.WellFormed)
    (hmem : layer ∈ network.layers) (shape : Shape) :
    Propagator.arriving network (fun _ => [shape]) layer =
      List.replicate layer.inputs.length shape := by
  apply List.ext_getElem?
  intro port
  rw [Propagator.getElem?_arriving, List.getElem?_replicate]
  by_cases hport : port < layer.inputs.length
  · have hne : layer ≠ source := by
      rintro rfl
      simp [h.source_inputs] at hport
    obtain ⟨connection, hconnection, htarget⟩ := (h.passes layer hmem hne).connected port hport
    obtain ⟨feeding, hfeeding, hsource⟩ := hnetwork.source_exists connection hconnection
    rw [h.length_outputs (List.mem_of_getElem? hfeeding)] at hsource
    have hproducer : network.producerOf? ⟨layer.id, port⟩ = some connection.source :=
      hnetwork.producers_iff.2 (htarget ▸ hconnection)
    have hdeclared : layer.inputShapes[port]? = some layer.inputs[port].shape := by
      simp [Layer.inputShapes, hport]
    have hzero : connection.source.port = 0 := by omega
    rw [if_pos hport, hdeclared, Network.sourceOf?, hproducer, Option.map_some, Option.map_some,
      Propagator.arrive, Option.bind_some, hzero]
    rfl
  · have hnone : layer.inputShapes[port]? = none :=
      List.getElem?_eq_none (by simpa [Layer.inputShapes] using hport)
    rw [if_neg hport, hnone, Option.map_none]

/-- The shape of the input solves the graph. -/
theorem solves (h : network.ShapePreserving source) (hnetwork : network.WellFormed)
    (hstart : Propagator.startShapes overrides source = [shape]) :
    Propagator.Solves network .builtIn overrides fun _ => [shape] where
  accepts := fun layer hmem _ _ _ => h.length_outputs hmem
  inferred := by
    intro layer hmem
    rw [Propagator.inferLayer_eq_ok_iff, h.arriving_eq hnetwork hmem, h.length_outputs hmem]
    by_cases heq : layer = source
    · rw [heq, hstart]
      refine ⟨Rule.source, ?_, ?_, rfl⟩
      · exact Registry.Extended.builtIn.get?_source (.inl h.source_type)
      · simp [Propagator.ruleInputs, h.source_inputs, Rule.source]
    · have hpasses := h.passes layer hmem heq
      obtain ⟨rule, hrule, hgives⟩ := hpasses.exists_rule shape
      refine ⟨rule, hrule, ?_, rfl⟩
      simp only [Propagator.ruleInputs, List.isEmpty_iff, hpasses.inputs_ne_nil, if_false]
      exact hgives _ _ _ (List.length_pos_iff.2 hpasses.inputs_ne_nil)

/-- What holds the solution has the shape at every port. -/
theorem uniform_of_snapshot (h : network.ShapePreserving source) (hnetwork : network.WellFormed)
    (hskeleton : result.skeleton = network.skeleton)
    (hsnapshot : result.snapshot = Propagator.tableOf network fun _ => [shape]) :
    result.Uniform shape := by
  intro after hafter
  obtain ⟨id, hafter⟩ := List.mem_iff_getElem?.1 hafter
  obtain ⟨layer, hlayer, -⟩ := exists_layer_of_skeleton hskeleton hafter
  obtain ⟨hinputs, houtputs⟩ := Propagator.ofLayer_of_snapshot hsnapshot hlayer hafter
  rw [h.arriving_eq hnetwork (List.mem_of_getElem? hlayer)] at hinputs
  constructor
  · intro port hport
    have hmem : port.shape ∈ after.inputShapes := List.mem_map_of_mem hport
    rw [hinputs] at hmem
    exact List.eq_of_mem_replicate hmem
  · intro port hport
    have hmem : port.shape ∈ after.outputShapes := List.mem_map_of_mem hport
    rw [houtputs] at hmem
    exact List.mem_singleton.1 hmem

theorem outputShapes_eq (h : network.ShapePreserving source) (huniform : network.Uniform shape)
    (hmem : layer ∈ network.layers) : layer.outputShapes = [shape] :=
  calc layer.outputShapes = List.replicate layer.outputs.length shape :=
        List.map_eq_replicate_iff.2 (huniform layer hmem).2
    _ = [shape] := by rw [h.length_outputs hmem, List.replicate_one]

/-- A network that has the shape at every port holds the solution. -/
theorem snapshot_of_uniform (h : network.ShapePreserving source) (hnetwork : network.WellFormed)
    (huniform : network.Uniform shape) :
    network.snapshot = Propagator.tableOf network fun _ => [shape] := by
  rw [snapshot, Propagator.tableOf, List.map_inj_left]
  intro layer hmem
  rw [h.arriving_eq hnetwork hmem, LayerShapes.ofLayer, LayerShapes.mk.injEq]
  exact ⟨List.map_eq_replicate_iff.2 (huniform layer hmem).1, h.outputShapes_eq huniform hmem⟩

end Network.ShapePreserving

namespace Network

variable {network : Network} {source : Layer}

/-- Where the engines agree, a run with either of them writes the solution. -/
theorem inferShapes_of_comparable {registry : Registry} {overrides : Overrides}
    (hnetwork : network.WellFormed) (hcomparable : Comparable network registry overrides)
    {outputs : String → List Shape} (hsolves : Propagator.Solves network registry overrides outputs)
    (mode : Mode) :
    (network.inferShapes registry ⟨mode, overrides⟩).journal.outcome = .ok () ∧
      (network.inferShapes registry ⟨mode, overrides⟩).network.skeleton = network.skeleton ∧
      (network.inferShapes registry ⟨mode, overrides⟩).network.snapshot =
        Propagator.tableOf network outputs := by
  obtain ⟨reshaper, hbuild⟩ := hcomparable.buildable
  have hmade := (Reshaper.build_eq_ok hnetwork hbuild).1
  obtain ⟨order, horder, -⟩ := hmade.sorted
  cases mode with
  | transactional =>
    obtain ⟨result, houtcome, rfl, hskeleton, hsnapshot⟩ :=
      inferShapes_of_solves hnetwork horder hsolves
    exact ⟨houtcome, hskeleton, hsnapshot⟩
  | legacy =>
    have hpush := (Propagator.outcome_propagate_eq_ok_iff hnetwork horder).2 ⟨outputs, hsolves, rfl⟩
    obtain ⟨seeded, hseeded, halike⟩ := alike_of_compute hnetwork hcomparable hbuild horder
    rw [hpush] at halike
    rcases halike with ⟨⟨located, set⟩, scratch, hpull, ⟨⟩, rfl, haligned⟩ | ⟨cause, -, ⟨⟩⟩
    obtain ⟨next, hnext, hskeleton, hsnapshot⟩ :=
      haligned.written hnetwork hmade (hnetwork.sorts horder) hseeded.reset_eq
    have hrun : reshaper.run network overrides =
        ⟨next, (reshaper.compute network overrides).entries, .ok ()⟩ := by
      simp [Reshaper.run, hpull, hnext]
    obtain ⟨hleft, houtcome⟩ := @inferShapes_of_build _ _ overrides _ hbuild
    rw [hleft, houtcome, hrun]
    exact ⟨rfl, hskeleton, hsnapshot⟩

/-- A requested shape reaches every port of a graph that hands one shape on, in both modes, and a graph
that has one shape at every port keeps it if nothing is requested. -/
theorem inferShapes_uniform (hnetwork : network.Built) (h : network.ShapePreserving source) :
    (∀ (shape : Shape) (mode : Mode),
      let run := network.inferShapes .builtIn ⟨mode, Dictionary.empty.insert source.name shape⟩
      run.journal.outcome = .ok () ∧ run.network.skeleton = network.skeleton ∧
        run.network.Uniform shape) ∧
    ∀ (shape : Shape) (mode : Mode), network.Uniform shape →
      let run := network.inferShapes .builtIn ⟨mode, .empty⟩
      run.journal.outcome = .ok () ∧ run.network = network := by
  have hformed := hnetwork.wellFormed
  have hconst : source.isType "const" = false := Layer.isType_disjoint h.source_type (by decide)
  constructor
  · intro shape mode run
    have hstart : Propagator.startShapes (Dictionary.empty.insert source.name shape) source =
        [shape] := by
      simp [Propagator.startShapes, Dictionary.get?_insert_empty, hconst]
    have hrequests : ∀ name, name ≠ source.name →
        (Dictionary.empty.insert source.name shape).get? name = none := by
      intro name hne
      rw [Dictionary.get?_insert_empty, if_neg hne]
    obtain ⟨houtcome, hskeleton, hsnapshot⟩ := inferShapes_of_comparable hformed
      (h.comparable hformed hrequests) (h.solves hformed hstart) mode
    exact ⟨houtcome, hskeleton, h.uniform_of_snapshot hformed hskeleton hsnapshot⟩
  · intro shape mode huniform run
    have hstart : Propagator.startShapes .empty source = [shape] :=
      h.outputShapes_eq huniform h.source_mem
    obtain ⟨houtcome, hskeleton, hsnapshot⟩ := inferShapes_of_comparable hformed
      (h.comparable hformed fun name _ => Dictionary.get?_empty name) (h.solves hformed hstart) mode
    refine ⟨houtcome, eq_of_snapshot hskeleton ?_⟩
    rw [hsnapshot, h.snapshot_of_uniform hformed huniform]

/-- An input that reaches a sum directly and through an activation. -/
def residual : Network where
  name := "residual"
  layers := [⟨0, "data", "Input", [], [⟨"data", [1, 4]⟩], .empty, .empty, false⟩,
    ⟨1, "act", "ReLU", [⟨"in", [1, 4]⟩], [⟨"out", [1, 4]⟩], .empty, .empty, false⟩,
    ⟨2, "sum", "Eltwise", [⟨"a", [1, 4]⟩, ⟨"b", [1, 4]⟩], [⟨"out", [1, 4]⟩], .empty, .empty, false⟩]
  connections := [⟨⟨0, 0⟩, ⟨1, 0⟩⟩, ⟨⟨0, 0⟩, ⟨2, 0⟩⟩, ⟨⟨1, 0⟩, ⟨2, 1⟩⟩]
  names := ((Table.empty.insert "data" 0).insert "act" 1).insert "sum" 2
  producers := ((Table.empty.insert ⟨1, 0⟩ ⟨0, 0⟩).insert ⟨2, 0⟩ ⟨0, 0⟩).insert ⟨2, 1⟩ ⟨1, 0⟩
  consumers := (Table.empty.insert ⟨0, 0⟩ [⟨1, 0⟩, ⟨2, 0⟩]).insert ⟨1, 0⟩ [⟨2, 1⟩]

theorem built_residual : residual.Built := by
  have hdata := @Built.addLayer _ _
    ⟨0, "data", "Input", [], [⟨"data", [1, 4]⟩], .empty, .empty, false⟩ 0 (.empty "residual") rfl
  have hact := @Built.addLayer _ _
    ⟨0, "act", "ReLU", [⟨"in", [1, 4]⟩], [⟨"out", [1, 4]⟩], .empty, .empty, false⟩ 1 hdata rfl
  have hsum := @Built.addLayer _ _ ⟨0, "sum", "Eltwise", [⟨"a", [1, 4]⟩, ⟨"b", [1, 4]⟩],
    [⟨"out", [1, 4]⟩], .empty, .empty, false⟩ 2 hact rfl
  have hforked := @Built.connectPorts _ _ ⟨0, 0⟩ ⟨2, 0⟩
    (@Built.connectPorts _ _ ⟨0, 0⟩ ⟨1, 0⟩ hsum rfl) rfl
  exact @Built.connectPorts _ _ ⟨1, 0⟩ ⟨2, 1⟩ hforked rfl

theorem shapePreserving_residual : residual.ShapePreserving
    ⟨0, "data", "Input", [], [⟨"data", [1, 4]⟩], .empty, .empty, false⟩ where
  acyclic := by
    have horder : residual.topologicalOrder = .ok [0, 1, 2] := by decide +kernel
    exact built_residual.wellFormed.exists_order_iff.1 ⟨_, horder⟩
  source_mem := by decide +kernel
  source_type := by decide +kernel
  source_inputs := rfl
  source_outputs := rfl
  passes := by
    intro layer hmem hne
    simp only [residual, List.mem_cons, List.not_mem_nil, or_false] at hmem
    rcases hmem with rfl | rfl | rfl
    · exact absurd rfl hne
    · exact ⟨rfl, .inl (by decide +kernel), rfl, by decide, by decide +kernel⟩
    · exact ⟨rfl, .inr (by decide +kernel), rfl, by decide, by decide +kernel⟩

/-- The request reaches the sum both ways, and without one the network keeps its one shape. -/
theorem residual_uniform :
    (residual.inferShapes .builtIn ⟨.legacy, Dictionary.empty.insert "data" [2, 3]⟩).network.Uniform
      [2, 3] ∧
    (residual.inferShapes .builtIn ⟨.transactional, .empty⟩).network = residual := by
  obtain ⟨hrequested, hkept⟩ := inferShapes_uniform built_residual shapePreserving_residual
  have huniform : residual.Uniform [1, 4] := by
    unfold Uniform
    decide
  exact ⟨(hrequested [2, 3] .legacy).2.2, (hkept [1, 4] .transactional huniform).2⟩

end Network

end ShapeFlow
