import ShapeFlow.Proofs.Engine.Outputs
import ShapeFlow.Proofs.Engine.WriteBack

/-!
What an accepted run leaves. Every layer of the network that the reshaper was made for has the inputs
that its producers give it and the outputs that follow from them by its kind; everything else is as it
was.
-/

namespace ShapeFlow.Reshaper

/-- The shapes a run leaves for a layer of the network its reshaper was made for. -/
structure Consistent (network : Network) (reshaper : Reshaper) (overrides : Overrides)
    (result : Network) (launcher : Launcher) (layer after : Layer) : Prop where
  /-- An input has the shape of the output that feeds it, or the shape declared for that output if its
  layer is passed through. -/
  connected : ∀ connection ∈ network.connections, connection.target.layer = layer.id →
    ∃ feeding feedingLauncher feedingAfter shape,
      network.layers[connection.source.layer]? = some feeding ∧
      reshaper.launcher feeding.name = .ok feedingLauncher ∧
      result.layerByName? feeding.name = some feedingAfter ∧
      after.inputShapes[connection.target.port]? = some shape ∧
      (feedingLauncher.kind = .passThrough →
        feeding.outputShapes[connection.source.port]? = some shape) ∧
      (feedingLauncher.kind ≠ .passThrough →
        feedingAfter.outputShapes[connection.source.port]? = some shape)
  /-- An input that nothing feeds has its declared shape. -/
  unconnected : ∀ {port : Nat}, port < layer.inputs.length →
    (∀ connection ∈ network.connections, connection.target ≠ ⟨layer.id, port⟩) →
      after.inputShapes[port]? = layer.inputShapes[port]?
  outputs : match launcher.kind with
    | .ordinary rule => rule after.inputShapes layer.params layer.blobs = .ok after.outputShapes
    | .input => after.outputShapes = layer.requestedShapes overrides
    | .constant => after.outputShapes = match layer.blobs.values.head? with
      | some blob => layer.outputShapes.set 0 blob.dims
      | none => layer.outputShapes
    | .memoryOutput => after.outputShapes = layer.outputShapes
    | .passThrough => True

section

variable {network other result : Network} {reshaper : Reshaper} {overrides : Overrides}
  {located : List (String × LayerId)} {set : LauncherSet} {layer before after : Layer}
  {launcher final : Launcher} {inputs : List Shape}

/-- An accepted run has computed all shapes and written them. -/
theorem exists_written_of_run (hrun : (reshaper.run other overrides).journal.outcome = .ok ()) :
    ∃ located set, (reshaper.compute other overrides).outcome = .ok (located, set) ∧
      writeBack set other located = ((reshaper.run other overrides).network, .ok ()) := by
  unfold run at *
  dsimp only at *
  split at hrun
  · cases hrun
  · next located set hcompute => exact ⟨located, set, hcompute, Prod.ext rfl hrun⟩

theorem run_eq_ok (hnetwork : network.WellFormed) (hother : other.WellFormed)
    (hmade : reshaper.MadeFor network)
    (hrun : (reshaper.run other overrides).journal.outcome = .ok ()) :
    ∃ located seeded set, Located reshaper other located ∧
      Seeded reshaper overrides reshaper.inputLayers seeded ∧
      Pulled seeded reshaper.sortedLayers set ∧
      Written set located other (reshaper.run other overrides).network := by
  obtain ⟨located, set, hcompute, hwritten⟩ := exists_written_of_run hrun
  obtain ⟨hlocated, seeded, hseeded, hpulled⟩ := pulled_of_compute hnetwork hother hmade hcompute
  exact ⟨located, seeded, set, hlocated, hseeded, hpulled,
    written_of_writeBack (hlocated.nodup_ids hnetwork hmade) hwritten⟩

theorem Final.written (h : Final overrides set layer launcher final inputs)
    (hmadeFor : launcher.MadeFor network layer) (hmatches : layer.Matches network other before)
    (hkind : launcher.kind ≠ .passThrough) (hafter : final.applyChanges before = .ok after) :
    after.inputShapes = inputs ∧ final.outputs = .ok after.outputShapes := by
  have hfinal := hmadeFor.of_reset h.reset_eq
  have hafter := Launcher.applyChanges_eq_ok_iff.1 hafter
  split at hafter
  · next hcase => exact absurd (Launcher.kind_of_reset h.reset_eq ▸ hcase) hkind
  · obtain ⟨-, hcount, shapes, houtputs, rfl⟩ := hafter
    have hlength : inputs.length = before.inputs.length := by
      rw [(hmadeFor.inputShapes_eq_ok_iff.1 h.reads).1, hmatches.length_inputs]
    have hlength' : shapes.length = before.outputs.length := by
      rw [(Launcher.outputs_eq_ok_iff.1 houtputs).1, hcount]
    rw [h.keeps hkind, Option.getD_some]
    exact ⟨map_shape_setShapes hlength,
      houtputs.trans (congrArg Except.ok (map_shape_setShapes hlength').symm)⟩

/-- The way of a layer through a run: its launcher, what that has become, and the layer before and
after the write-back. -/
structure Visited (network : Network) (reshaper : Reshaper) (overrides : Overrides)
    (other result : Network) (set : LauncherSet) (layer : Layer) (launcher final : Launcher)
    (inputs : List Shape) (before after : Layer) : Prop where
  launcher_eq : reshaper.launcher layer.name = .ok launcher
  madeFor : launcher.MadeFor network layer
  computed : Final overrides set layer launcher final inputs
  before_eq : other.layerByName? layer.name = some before
  skeleton_eq : after.skeleton = before.skeleton
  matched : layer.Matches network other before
  written : final.applyChanges before = .ok after
  after_eq : result.layerByName? layer.name = some after

theorem exists_visited (hnetwork : network.WellFormed) (hother : other.WellFormed)
    (hmade : reshaper.MadeFor network) (hlocated : Located reshaper other located)
    {seeded : LauncherSet} (hseeded : Seeded reshaper overrides reshaper.inputLayers seeded)
    (hpulled : Pulled seeded reshaper.sortedLayers set)
    (hwritten : Written set located other result) {id : LayerId}
    (hlayer : network.layers[id]? = some layer) :
    ∃ launcher final inputs before after,
      Visited network reshaper overrides other result set layer launcher final inputs before after := by
  obtain ⟨launcher, hget⟩ := hmade.launchers.exists_get hlayer
  obtain ⟨final, inputs, hfinal⟩ := exists_final hnetwork hmade hseeded hpulled hlayer hget
  obtain ⟨id', before, hentry, hbefore, hmatches⟩ :=
    hlocated.exists_found hnetwork hother hmade hlayer
  obtain ⟨final', after, hget', hchanged, hafter⟩ := hwritten.written hentry hbefore
  rw [hfinal.get_eq] at hget'
  cases hget'
  have hskeleton := Launcher.skeleton_of_applyChanges hchanged
  have hresult := hother.of_skeleton hwritten.skeleton_eq
  exact ⟨launcher, final, inputs, before, after, hget,
    hmade.launchers.madeFor_layer hnetwork hlayer hget, hfinal,
    hother.layerByName?_eq_some_iff.2 ⟨id', hbefore, hmatches.name_eq⟩, hskeleton, hmatches,
    hchanged, hresult.layerByName?_eq_some_iff.2
      ⟨id', hafter, (Layer.name_of_skeleton hskeleton).trans hmatches.name_eq⟩⟩

theorem Visited.eq_of_passThrough
    (h : Visited network reshaper overrides other result set layer launcher final inputs before after)
    (hkind : launcher.kind = .passThrough) : after = before := by
  have hwritten := Launcher.applyChanges_eq_ok_iff.1 h.written
  rw [Launcher.kind_of_reset h.computed.reset_eq, hkind] at hwritten
  exact hwritten

/-- What another layer reads from a layer. -/
theorem Visited.outputShape
    (h : Visited network reshaper overrides other result set layer launcher final inputs before after)
    {port : Nat} {shape : Shape} (hshape : final.outputShape port = .ok shape) :
    (launcher.kind = .passThrough → layer.outputShapes[port]? = some shape) ∧
      (launcher.kind ≠ .passThrough → after.outputShapes[port]? = some shape) := by
  have hfinal := h.madeFor.of_reset h.computed.reset_eq
  have hlength : final.outShapes.length = final.declaredOutputs.length := by
    rw [hfinal.length_outShapes, hfinal.length_declaredOutputs]
  constructor
  · intro hkind
    have hgives := h.computed.gives
    rw [hkind] at hgives
    exact Launcher.getElem?_outputs hlength hgives hshape
  · intro hkind
    exact Launcher.getElem?_outputs hlength
      (h.computed.written h.madeFor h.matched hkind h.written).2 hshape

theorem declare_constant (layer : Layer) : Launcher.declare layer .constant =
    match layer.blobs.values.head? with
    | some blob => layer.outputShapes.set 0 blob.dims
    | none => layer.outputShapes := by
  unfold Launcher.declare
  cases layer.blobs.values with
  | nil => rfl
  | cons blob rest => cases layer.outputShapes <;> rfl

/-- The shape at an input of the layer, and where it was read. -/
theorem Visited.reads
    (h : Visited network reshaper overrides other result set layer launcher final inputs before after)
    (hkind : launcher.kind ≠ .passThrough) {port : Nat} (hlt : port < layer.inputs.length) :
    ∃ declared shape : Shape, layer.inputShapes[port]? = some declared ∧
      after.inputShapes[port]? = some shape ∧
        Launcher.Reads network set declared shape (network.producerOf? ⟨layer.id, port⟩) := by
  obtain ⟨hinputs, -⟩ := h.computed.written h.madeFor h.matched hkind h.written
  obtain ⟨hlength, hread⟩ := h.madeFor.inputShapes_eq_ok_iff.1 h.computed.reads
  have hdeclared : layer.inputShapes[port]? = some layer.inputs[port].shape := by
    simp [Layer.inputShapes, hlt]
  have hshape := List.getElem?_eq_getElem (hlength ▸ hlt)
  exact ⟨_, _, hdeclared, hinputs ▸ hshape, hread port _ _ hdeclared hshape⟩

theorem Visited.consistent (hnetwork : network.WellFormed)
    (hall : ∀ {id : LayerId} {layer : Layer}, network.layers[id]? = some layer →
      ∃ launcher final inputs before after, Visited network reshaper overrides other result set layer
        launcher final inputs before after)
    {id : LayerId} (hlayer : network.layers[id]? = some layer)
    (h : Visited network reshaper overrides other result set layer launcher final inputs before after)
    (hkind : launcher.kind ≠ .passThrough) :
    Consistent network reshaper overrides result launcher layer after := by
  obtain ⟨hinputs, houtputs⟩ := h.computed.written h.madeFor h.matched hkind h.written
  refine ⟨?_, ?_, ?_⟩
  · intro connection hmem htarget
    obtain ⟨layer', hlayer', hlt⟩ := hnetwork.target_exists connection hmem
    rw [htarget, hnetwork.id_eq hlayer, hlayer] at hlayer'
    cases hlayer'
    obtain ⟨declared, shape, -, hshape, hproducer⟩ := h.reads hkind hlt
    have hplace : (⟨layer.id, connection.target.port⟩ : PortRef) = connection.target := by
      rw [← htarget]
    rw [hplace, hnetwork.producers_iff.2 hmem] at hproducer
    obtain ⟨feeding', hget, houtput⟩ := hproducer
    obtain ⟨feeding, hfeeding, -⟩ := hnetwork.source_exists connection hmem
    obtain ⟨feedingLauncher, feedingFinal, _, _, feedingAfter, hvisited⟩ := hall hfeeding
    rw [Network.nameOf_eq hfeeding, hvisited.computed.get_eq] at hget
    cases hget
    exact ⟨feeding, feedingLauncher, feedingAfter, shape, hfeeding, hvisited.launcher_eq,
      hvisited.after_eq, hshape, hvisited.outputShape houtput⟩
  · intro port hlt hfree
    obtain ⟨declared, shape, hdeclared, hshape, hproducer⟩ := h.reads hkind hlt
    have hnone : network.producerOf? ⟨layer.id, port⟩ = none := by
      rw [Option.eq_none_iff_forall_ne_some]
      exact fun source hsource => hfree _ (hnetwork.producers_iff.1 hsource) rfl
    rw [hnone] at hproducer
    rw [hshape, hdeclared]
    exact congrArg some hproducer
  · have hgives := h.computed.gives
    cases hcase : launcher.kind with
    | ordinary rule =>
      rw [hcase] at hgives
      obtain ⟨outputs, hrule, -, heq⟩ := hgives
      rw [houtputs] at heq
      cases heq
      rwa [hinputs]
    | input =>
      rw [hcase, houtputs] at hgives
      obtain ⟨hshapes, hambiguous⟩ := hgives
      by_cases hnodup : layer.Unambiguous
      · exact Except.ok.inj (hshapes hnodup)
      · obtain ⟨cause, hcause⟩ := hambiguous hnodup
        cases hcause
    | constant =>
      rw [hcase, houtputs] at hgives
      exact (Except.ok.inj hgives).trans (declare_constant layer)
    | memoryOutput =>
      rw [hcase, houtputs] at hgives
      exact Except.ok.inj hgives
    | passThrough => trivial

/-- An accepted run leaves a consistent network. -/
theorem run_consistent (hnetwork : network.Built) (hreshaper : Of network reshaper)
    (hother : other.Built) (hrun : (reshaper.run other overrides).journal.outcome = .ok ()) :
    (reshaper.run other overrides).network.skeleton = other.skeleton ∧
    (∀ (id : LayerId) (before : Layer), other.layers[id]? = some before →
      (∀ layer ∈ network.layers, layer.name ≠ before.name) →
        (reshaper.run other overrides).network.layers[id]? = some before) ∧
    ∀ layer ∈ network.layers, ∃ launcher before after,
      reshaper.launcher layer.name = .ok launcher ∧
      other.layerByName? layer.name = some before ∧
      (reshaper.run other overrides).network.layerByName? layer.name = some after ∧
      (launcher.kind = .passThrough → after = before) ∧
      (launcher.kind ≠ .passThrough → Consistent network reshaper overrides
        (reshaper.run other overrides).network launcher layer after) := by
  have hmade := hreshaper.madeFor hnetwork.wellFormed
  obtain ⟨located, seeded, set, hlocated, hseeded, hpulled, hwritten⟩ :=
    run_eq_ok hnetwork.wellFormed hother.wellFormed hmade hrun
  have hall : ∀ {id : LayerId} {layer : Layer}, network.layers[id]? = some layer →
      ∃ launcher final inputs before after, Visited network reshaper overrides other
        (reshaper.run other overrides).network set layer launcher final inputs before after :=
    exists_visited hnetwork.wellFormed hother.wellFormed hmade hlocated hseeded hpulled hwritten
  refine ⟨hwritten.skeleton_eq, ?_, ?_⟩
  · intro id before hbefore hforeign
    rw [hwritten.kept, hbefore]
    intro hmem
    obtain ⟨⟨name, id'⟩, hentry, heq⟩ := List.mem_map.1 hmem
    dsimp only at heq
    subst heq
    obtain ⟨_, before', -, hbefore', hname, -⟩ := hlocated.found hentry
    rw [hbefore] at hbefore'
    cases hbefore'
    obtain ⟨id, layer, hlayer, hlayerName⟩ :=
      hlocated.exists_layer hnetwork.wellFormed hmade hentry
    exact hforeign layer (List.mem_of_getElem? hlayer) (hlayerName.trans hname.symm)
  · intro layer hmem
    obtain ⟨id, hlayer⟩ := List.mem_iff_getElem?.1 hmem
    obtain ⟨launcher, final, inputs, before, after, hvisited⟩ := hall hlayer
    exact ⟨launcher, before, after, hvisited.launcher_eq, hvisited.before_eq, hvisited.after_eq,
      hvisited.eq_of_passThrough, hvisited.consistent hnetwork.wellFormed hall hlayer⟩

end

theorem sample_run_consistent : ∃ reshaper, Of .sample reshaper ∧
    ∀ layer ∈ Network.sample.layers, ∃ launcher before after,
      reshaper.launcher layer.name = .ok launcher ∧
      Network.sample.layerByName? layer.name = some before ∧
      (reshaper.run .sample Network.sampleRequest).network.layerByName? layer.name = some after ∧
      (launcher.kind = .passThrough → after = before) ∧
      (launcher.kind ≠ .passThrough → Consistent .sample reshaper Network.sampleRequest
        (reshaper.run .sample Network.sampleRequest).network launcher layer after) := by
  have haccepted : ((build .sample .builtIn).outcome.toOption.map fun reshaper =>
      (reshaper.run .sample Network.sampleRequest).journal.outcome) = some (.ok ()) := by
    decide +kernel
  obtain ⟨reshaper, hbuild, hrun⟩ := Option.map_eq_some_iff.1 haccepted
  have hreshaper : Of .sample reshaper := .build (toOption_eq_some_iff.1 hbuild)
  obtain ⟨-, -, hlayers⟩ := run_consistent Network.built_sample hreshaper Network.built_sample hrun
  exact ⟨reshaper, hreshaper, hlayers⟩

end ShapeFlow.Reshaper
