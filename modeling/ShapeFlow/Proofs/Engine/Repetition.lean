import ShapeFlow.Proofs.Engine.Comparison
import ShapeFlow.Proofs.Engine.FixedPoint
import ShapeFlow.Proofs.Engine.Solution

/-!
Propagations reach a fixed point at once. The outputs that solve the equations of a network also solve
those of the network they are written to: inputs that are fed read the same outputs, all others stand
for themselves, and a source or a memory cell hands its own outputs on.
-/

namespace ShapeFlow

/-! ### Networks of one structure -/

namespace Network

theorem sourcesOf_skeleton (network : Network) (layer : Layer) :
    network.skeleton.sourcesOf layer.skeleton = network.sourcesOf layer := by
  simp only [sourcesOf, nameOf_skeleton, Layer.skeleton, List.length_map]
  rfl

theorem sourcesOf_of_skeleton {a b : Network} (h : a.skeleton = b.skeleton) {layer other : Layer}
    (hlayer : layer.skeleton = other.skeleton) : a.sourcesOf layer = b.sourcesOf other := by
  rw [← sourcesOf_skeleton a, h, hlayer, sourcesOf_skeleton]

end Network

namespace Propagator

variable {network result : Network} {registry : Registry} {overrides fewer : Overrides}
  {layer after : Layer} {outputs : String → List Shape}

/-- The rule is applied to equal shapes in layers of one structure. -/
theorem inferLayer_congr (hskeleton : after.skeleton = layer.skeleton) {shapes shapes' : LayerShapes}
    (h : ruleInputs after shapes' = ruleInputs layer shapes) :
    inferLayer registry after shapes' = inferLayer registry layer shapes := by
  obtain ⟨-, hname, htype, -, -, hparams, hblobs, -⟩ := Layer.skeleton_eq_iff.1 hskeleton
  simp only [inferLayer, h, hname, htype, hparams, hblobs, Layer.length_outputs_of_skeleton hskeleton]

/-! ### Rules of layers without inputs -/

/-- A rule that keeps the number of shapes only by handing them on. -/
def HandsOn (rule : Rule) : Prop :=
  ∀ {inputs outputs : List Shape} {params : Params} {blobs : Blobs},
    rule inputs params blobs = .ok outputs → outputs.length = inputs.length → outputs = inputs

theorem handsOn_source : HandsOn Rule.source := by
  intro inputs outputs params blobs h _
  exact (Except.ok.inj h).symm

theorem handsOn_memory : HandsOn Rule.memory := by
  intro inputs outputs params blobs h hlength
  obtain ⟨index, -, h⟩ := bind_eq_ok_iff.1 h
  split at h
  · cases h
    exact (List.length_eq_zero_iff.1 hlength.symm).symm
  · cases inputs with
    | nil => cases h
    | cons first rest =>
      cases h
      have hrest : rest = [] := by simpa using hlength.symm
      rw [hrest]

/-- A layer without inputs whose rule hands on keeps the outputs it starts with. -/
theorem eq_startShapes_of_handsOn {shapes : LayerShapes} (hinputs : layer.inputs = [])
    (haccepts : Accepts overrides layer) (hstart : shapes.outputs = startShapes overrides layer)
    (hrule : ∀ rule, registry.get? layer.typeName = some rule → HandsOn rule) {found : List Shape}
    (h : inferLayer registry layer shapes = .ok found) : found = startShapes overrides layer := by
  obtain ⟨rule, hget, hfound, hlength⟩ := inferLayer_eq_ok_iff.1 h
  have hread : ruleInputs layer shapes = startShapes overrides layer := by
    simp [ruleInputs, hinputs, hstart]
  have hcount : (startShapes overrides layer).length = layer.outputs.length := by
    simpa [start, LayerShapes.count, LayerShapes.ofLayer, Layer.outputShapes] using
      congrArg Prod.snd (count_start haccepts)
  rw [hread] at hfound
  exact hrule rule hget hfound (hlength.trans hcount.symm)

theorem handsOn_of_extended (hregistry : registry.Extended)
    (htype : layer.isType "input" = true ∨ layer.isType "const" = true ∨
      layer.isType "memory" = true) {rule : Rule} (hrule : registry.get? layer.typeName = some rule) :
    HandsOn rule := by
  rcases htype with htype | htype | htype
  · rw [hregistry.get?_source (.inl htype)] at hrule
    cases hrule
    exact handsOn_source
  · rw [hregistry.get?_source (.inr htype)] at hrule
    cases hrule
    exact handsOn_source
  · rw [hregistry.get?_memory htype] at hrule
    cases hrule
    exact handsOn_memory

/-! ### What was written solves the equations again -/

/-- A request that has been met does not change the outputs. -/
theorem startShapes_of_met (hskeleton : after.skeleton = layer.skeleton)
    (hfewer : ∀ name shape, fewer.get? name = some shape → overrides.get? name = some shape)
    (h : after.outputShapes = startShapes overrides layer) :
    startShapes fewer after = after.outputShapes := by
  obtain ⟨-, hname, htype, -⟩ := Layer.skeleton_eq_iff.1 hskeleton
  unfold startShapes
  cases hrequest : fewer.get? after.name with
  | none => rfl
  | some shape =>
    have hrequest' : overrides.get? layer.name = some shape := hfewer _ _ (hname ▸ hrequest)
    by_cases hconst : after.isType "const" = true
    · simp [hconst]
    · have hconst' : ¬ layer.isType "const" = true := by rwa [Layer.isType, ← htype]
      simp [hconst, h, startShapes, hrequest', hconst']

theorem Accepts.of_skeleton (hskeleton : after.skeleton = layer.skeleton)
    (hfewer : ∀ name shape, fewer.get? name = some shape → overrides.get? name = some shape)
    (h : Accepts overrides layer) : Accepts fewer after := by
  obtain ⟨-, hname, htype, -⟩ := Layer.skeleton_eq_iff.1 hskeleton
  intro shape hrequest hconst
  rw [hname] at hrequest
  rw [Layer.isType, htype] at hconst
  rw [Layer.length_outputs_of_skeleton hskeleton]
  exact h shape (hfewer _ _ hrequest) hconst

theorem arrive_arrive (outputs : String → List Shape) (source : Option Source) (declared : Shape) :
    arrive outputs source (arrive outputs source declared) = arrive outputs source declared := by
  unfold arrive
  cases source.bind fun source => (outputs source.layer)[source.port]? <;> rfl

/-- The inputs that were written are those that arrive. -/
theorem arriving_of_written (hsources : result.sourcesOf after = network.sourcesOf layer)
    (h : after.inputShapes = arriving network outputs layer) :
    arriving result outputs after = after.inputShapes := by
  apply List.ext_getElem?
  intro port
  rw [h, arriving, hsources, h, arriving, List.getElem?_zipWith, List.getElem?_zipWith]
  cases (network.sourcesOf layer)[port]? with
  | none => rfl
  | some source =>
    cases layer.inputShapes[port]? with
    | none => rfl
    | some declared => exact congrArg some (arrive_arrive outputs source declared)

/-- A solution still is one after it has been written, if layers without inputs hand on. -/
theorem Solves.of_written (hsolves : Solves network registry overrides outputs)
    (hhand : ∀ layer ∈ network.layers, layer.inputs = [] →
      ∀ rule, registry.get? layer.typeName = some rule → HandsOn rule)
    (hskeleton : result.skeleton = network.skeleton)
    (hsnapshot : result.snapshot = tableOf network outputs)
    (hfewer : ∀ name shape, fewer.get? name = some shape → overrides.get? name = some shape) :
    Solves result registry fewer outputs ∧ tableOf result outputs = result.snapshot := by
  have hwritten : ∀ after ∈ result.layers, ∃ layer ∈ network.layers,
      after.skeleton = layer.skeleton ∧ after.outputShapes = outputs layer.name ∧
        after.inputShapes = arriving network outputs layer ∧
          arriving result outputs after = after.inputShapes := by
    intro after hmem
    obtain ⟨id, hafter⟩ := List.mem_iff_getElem?.1 hmem
    obtain ⟨layer, hlayer, hsame⟩ := Network.exists_layer_of_skeleton hskeleton hafter
    obtain ⟨hinputs, houtputs⟩ := ofLayer_of_snapshot hsnapshot hlayer hafter
    exact ⟨layer, List.mem_of_getElem? hlayer, hsame.symm, houtputs, hinputs,
      arriving_of_written (Network.sourcesOf_of_skeleton hskeleton hsame.symm) hinputs⟩
  refine ⟨⟨fun after hmem => ?_, fun after hmem => ?_⟩, List.map_inj_left.2 fun after hmem => ?_⟩
  · obtain ⟨layer, hlayer, hsame, -⟩ := hwritten after hmem
    exact (hsolves.accepts layer hlayer).of_skeleton hsame hfewer
  · obtain ⟨layer, hlayer, hsame, houtputs, hinputs, harriving⟩ := hwritten after hmem
    have hinferred := hsolves.inferred layer hlayer
    rw [Layer.name_of_skeleton hsame, ← hinferred]
    apply inferLayer_congr hsame
    by_cases hempty : layer.inputs = []
    · have hempty' : after.inputs = [] := by
        rw [← List.length_eq_zero_iff, Layer.length_inputs_of_skeleton hsame, hempty, List.length_nil]
      have hkept : outputs layer.name = startShapes overrides layer :=
        eq_startShapes_of_handsOn hempty (hsolves.accepts layer hlayer) rfl
          (hhand layer hlayer hempty) hinferred
      have hmet : startShapes fewer after = after.outputShapes :=
        startShapes_of_met hsame hfewer (houtputs.trans hkept)
      simp only [ruleInputs, hempty, hempty', List.isEmpty_nil, if_true, hmet, houtputs, hkept]
    · have hne : after.inputs ≠ [] := by
        rwa [ne_eq, ← List.length_eq_zero_iff, Layer.length_inputs_of_skeleton hsame,
          List.length_eq_zero_iff]
      simp [ruleInputs, hempty, hne, harriving, hinputs]
  · obtain ⟨layer, -, hsame, houtputs, -, harriving⟩ := hwritten after hmem
    rw [LayerShapes.ofLayer, harriving, houtputs, Layer.name_of_skeleton hsame]

end Propagator

namespace Network

open Propagator

variable {network : Network} {registry : Registry} {overrides fewer : Overrides}

/-- A second propagation with the same requests or fewer is accepted, and changes nothing. -/
theorem inferShapes_transactional_fixed (hnetwork : network.Built) (hregistry : registry.Extended)
    (hsources : ∀ layer ∈ network.layers, layer.inputs = [] → layer.isType "input" = true ∨
      layer.isType "const" = true ∨ layer.isType "memory" = true)
    (hrun : (network.inferShapes registry ⟨.transactional, overrides⟩).journal.outcome = .ok ())
    (hfewer : ∀ name shape, fewer.get? name = some shape → overrides.get? name = some shape) :
    ((network.inferShapes registry ⟨.transactional, overrides⟩).network.inferShapes registry
        ⟨.transactional, fewer⟩).journal.outcome = .ok () ∧
      ((network.inferShapes registry ⟨.transactional, overrides⟩).network.inferShapes registry
        ⟨.transactional, fewer⟩).network =
          (network.inferShapes registry ⟨.transactional, overrides⟩).network := by
  have hformed := hnetwork.wellFormed
  obtain ⟨⟨order, horder⟩, outputs, hsolves⟩ := exists_solution_of_inferShapes hformed hrun
  obtain ⟨result, -, hresult, hskeleton, hsnapshot⟩ := inferShapes_of_solves hformed horder hsolves
  obtain ⟨hagain, htable⟩ := hsolves.of_written (fun layer hmem hempty rule =>
    handsOn_of_extended hregistry (hsources layer hmem hempty)) hskeleton hsnapshot hfewer
  have horder' : result.topologicalOrder = .ok order := by
    rw [topologicalOrder_of_skeleton hskeleton, horder]
  obtain ⟨last, hdone, hlast, hskeleton', hsnapshot'⟩ :=
    inferShapes_of_solves (hformed.of_skeleton hskeleton) horder' hagain
  rw [hresult]
  exact ⟨hdone, hlast.trans (eq_of_snapshot hskeleton' (hsnapshot'.trans htable))⟩

/-- Shapes are requested for the source and for the layer that it feeds, which overwrites its own. -/
def sampleRequests : Overrides :=
  (Dictionary.empty.insert "data" [2, 4]).insert "act" [7]

theorem sample_transactional_fixed :
    ((sample.inferShapes .builtIn ⟨.transactional, sampleRequests⟩).network.inferShapes .builtIn
        ⟨.transactional, Dictionary.empty.insert "act" [7]⟩).journal.outcome = .ok () ∧
      ((sample.inferShapes .builtIn ⟨.transactional, sampleRequests⟩).network.inferShapes .builtIn
        ⟨.transactional, Dictionary.empty.insert "act" [7]⟩).network =
          (sample.inferShapes .builtIn ⟨.transactional, sampleRequests⟩).network := by
  have hsources : ∀ layer ∈ sample.layers, layer.inputs = [] → layer.isType "input" = true ∨
      layer.isType "const" = true ∨ layer.isType "memory" = true := by
    decide +kernel
  have hrun : (sample.inferShapes .builtIn ⟨.transactional, sampleRequests⟩).journal.outcome =
      .ok () := by
    decide +kernel
  refine inferShapes_transactional_fixed built_sample .builtIn hsources hrun fun name shape h => ?_
  simp only [Dictionary.get?, Dictionary.insert, Dictionary.empty, placeInOrder, List.lookup_cons,
    List.lookup_nil] at h
  by_cases heq : name = "act"
  · subst heq
    exact h
  · rw [beq_eq_false_iff_ne.2 heq] at h
    cases h

end Network

end ShapeFlow
