import ShapeFlow.Proofs.Engine.Settled

/-!
Runs reach a fixed point at once. An accepted run leaves a settled network, for which launchers of the
same kinds are made, so that a second run with the same requests or fewer changes nothing.
-/

namespace ShapeFlow

/-! ### Networks of one structure -/

namespace Layer

variable {a b : Layer}

theorem inputKind_of_skeleton (h : a.skeleton = b.skeleton) : a.inputKind = b.inputKind := by
  have hkind : a.skeleton.inputKind = b.skeleton.inputKind := by rw [h]
  exact hkind

theorem interiorKind_of_skeleton (h : a.skeleton = b.skeleton) (registry : Registry) :
    a.interiorKind registry = b.interiorKind registry := by
  have hkind : a.skeleton.interiorKind registry = b.skeleton.interiorKind registry := by rw [h]
  exact hkind

end Layer

namespace Network

variable {a b : Network}

theorem inputLayers_skeleton (network : Network) :
    network.skeleton.inputLayers = network.inputLayers := by
  have hinput : network.skeleton.isInput ∘ Layer.skeleton = network.isInput := by
    funext layer
    simp [isInput, skeleton, Layer.skeleton]
  simp only [inputLayers, skeleton, List.filter_map, List.map_map]
  exact congrArg (fun input => (network.layers.filter input).map Layer.id) hinput

theorem topologicalOrder_skeleton (network : Network) :
    network.skeleton.topologicalOrder = network.topologicalOrder := by
  have hlinks : network.skeleton.links = network.links := rfl
  have hlength : network.skeleton.layers.length = network.layers.length := by simp [skeleton]
  rw [topologicalOrder, topologicalOrder, nameOf_skeleton, hlinks, hlength]

theorem inputLayers_of_skeleton (h : a.skeleton = b.skeleton) : a.inputLayers = b.inputLayers := by
  rw [← inputLayers_skeleton a, h, inputLayers_skeleton]

theorem topologicalOrder_of_skeleton (h : a.skeleton = b.skeleton) :
    a.topologicalOrder = b.topologicalOrder := by
  rw [← topologicalOrder_skeleton a, h, topologicalOrder_skeleton]

end Network

namespace Reshaper

section

variable {a b : Network} {registry : Registry} {reshaper other : Reshaper}

theorem exists_launcherFor (hb : b.WellFormed) (h : b.skeleton = a.skeleton) {id : LayerId}
    {launcher : Launcher} (hmade : (launcherFor a registry a.inputLayers id).outcome = .ok launcher) :
    ∃ launcher, (launcherFor b registry b.inputLayers id).outcome = .ok launcher := by
  obtain ⟨layer, kind, hlayer, hkind, -⟩ := launcherFor_eq_ok hmade
  obtain ⟨layer', hlayer', hskeleton⟩ := Network.exists_layer_of_skeleton h.symm hlayer
  rw [exists_launcherFor_iff hb hlayer', Network.inputLayers_of_skeleton h,
    Layer.inputKind_of_skeleton hskeleton, Layer.interiorKind_of_skeleton hskeleton]
  exact ⟨kind, hkind⟩

/-- A reshaper can be built for a network if it can be for one of the same structure. -/
theorem exists_build (ha : a.WellFormed) (hb : b.WellFormed) (h : b.skeleton = a.skeleton)
    (hbuild : (build a registry).outcome = .ok reshaper) :
    ∃ other, (build b registry).outcome = .ok other := by
  obtain ⟨order, -, horder, hinputs, -, -⟩ := (build_eq_ok_iff ha).1 hbuild
  rw [← Network.inputLayers_of_skeleton h] at hinputs
  rw [← Network.topologicalOrder_of_skeleton h] at horder
  refine exists_build_of_launchers hb horder hinputs fun {id layer} hlayer => ?_
  obtain ⟨layer', hlayer', -⟩ := Network.exists_layer_of_skeleton h hlayer
  obtain ⟨launcher, -, hmade⟩ := (build_eq_ok ha hbuild).2 hlayer'
  exact exists_launcherFor hb h hmade

/-- Launchers made for networks of one structure are of the same kinds. -/
theorem kind_of_builds (ha : a.WellFormed) (hb : b.WellFormed) (h : b.skeleton = a.skeleton)
    (hbuild : (build a registry).outcome = .ok reshaper)
    (hother : (build b registry).outcome = .ok other) {id : LayerId} {layer after : Layer}
    {launcher launcher' : Launcher} (hlayer : a.layers[id]? = some layer)
    (hafter : b.layers[id]? = some after) (hskeleton : after.skeleton = layer.skeleton)
    (hget : reshaper.launchers.get layer.name = .ok launcher)
    (hget' : other.launchers.get after.name = .ok launcher') : launcher'.kind = launcher.kind := by
  have hkind := kind_of_build ha hbuild hlayer hget
  have hkind' := kind_of_build hb hother hafter hget'
  rw [hb.id_eq hafter, Network.inputLayers_of_skeleton h, Layer.inputKind_of_skeleton hskeleton,
    Layer.interiorKind_of_skeleton hskeleton] at hkind'
  rw [ha.id_eq hlayer] at hkind
  split at hkind
  · next hinput =>
    rw [if_pos hinput, hkind] at hkind'
    exact (Except.ok.inj hkind').symm
  · next hinput =>
    rw [if_neg hinput, hkind] at hkind'
    exact (Except.ok.inj hkind').symm

end

/-! ### What a run leaves is settled -/

section

variable {network result : Network} {registry : Registry} {reshaper other : Reshaper}
  {overrides fewer : Overrides} {located : List (String × LayerId)} {set : LauncherSet}
  {layer before after : Layer} {launcher final : Launcher} {inputs : List Shape} {id : LayerId}

/-- The network of the run is the one that its reshaper was made for. -/
theorem exists_visited_self (hnetwork : network.WellFormed) (hmade : reshaper.MadeFor network)
    (hlocated : Located reshaper network located) {seeded : LauncherSet}
    (hseeded : Seeded reshaper overrides reshaper.inputLayers seeded)
    (hpulled : Pulled seeded reshaper.sortedLayers set)
    (hwritten : Written set located network result) (hlayer : network.layers[id]? = some layer)
    (hafter : result.layers[id]? = some after) :
    ∃ launcher final inputs, Visited network reshaper overrides network result set layer launcher
      final inputs layer after := by
  obtain ⟨launcher, final, inputs, before, after', hvisited⟩ :=
    exists_visited hnetwork hnetwork hmade hlocated hseeded hpulled hwritten hlayer
  have hresult := hnetwork.of_skeleton hwritten.skeleton_eq
  have hbefore : before = layer := hnetwork.eq_of_layerByName? hvisited.before_eq hlayer rfl
  obtain ⟨layer', hlayer', hskeleton⟩ :=
    Network.exists_layer_of_skeleton hwritten.skeleton_eq hafter
  rw [hlayer, Option.some.injEq] at hlayer'
  subst hbefore hlayer'
  have hafter' : after' = after :=
    hresult.eq_of_layerByName? hvisited.after_eq hafter (Layer.name_of_skeleton hskeleton).symm
  subst hafter'
  exact ⟨launcher, final, inputs, hvisited⟩

theorem Visited.outputShape_after
    (h : Visited network reshaper overrides network result set layer launcher final inputs layer after)
    {port : Nat} {shape : Shape} (hshape : final.outputShape port = .ok shape) :
    after.outputShapes[port]? = some shape := by
  obtain ⟨hpass, hother⟩ := h.outputShape hshape
  by_cases hkind : launcher.kind = .passThrough
  · rw [h.eq_of_passThrough hkind]
    exact hpass hkind
  · exact hother hkind

theorem Visited.arriving_eq (hnetwork : network.WellFormed)
    (hskeleton : result.skeleton = network.skeleton)
    (hall : ∀ {id : LayerId} {layer after : Layer}, network.layers[id]? = some layer →
      result.layers[id]? = some after → ∃ launcher final inputs, Visited network reshaper overrides
        network result set layer launcher final inputs layer after)
    (h : Visited network reshaper overrides network result set layer launcher final inputs layer after)
    (hkind : launcher.kind ≠ .passThrough) : result.arriving after = after.inputShapes := by
  have hproducer : result.producerOf? = network.producerOf? := by
    funext input
    rw [Network.producerOf?, Network.producerOf?, (Network.skeleton_eq_iff.1 hskeleton).2.2.2.2.1]
  have hid : after.id = layer.id := (Layer.skeleton_eq_iff.1 h.skeleton_eq).1
  refine List.ext_getElem? fun port => ?_
  rw [Network.arriving, List.getElem?_mapIdx, hproducer, hid]
  by_cases hlt : port < layer.inputs.length
  · obtain ⟨declared, shape, -, hshape, hreads⟩ := h.reads hkind hlt
    rw [hshape, Option.map_some, Option.some.injEq]
    cases hfed : network.producerOf? ⟨layer.id, port⟩ with
    | none => rfl
    | some producer =>
      rw [hfed] at hreads
      obtain ⟨feedingFinal, hget, houtput⟩ := hreads
      obtain ⟨feeding, hfeeding, -⟩ := hnetwork.source_exists _ (hnetwork.producers_iff.1 hfed)
      obtain ⟨feedingAfter, hfeedingAfter, -⟩ :=
        Network.exists_layer_of_skeleton hskeleton.symm hfeeding
      obtain ⟨feedingLauncher, feedingFinal', _, hvisited⟩ := hall hfeeding hfeedingAfter
      rw [Network.nameOf_eq hfeeding, hvisited.computed.get_eq, Except.ok.injEq] at hget
      subst hget
      simp [Network.outputShape, hfeedingAfter, hvisited.outputShape_after houtput]
  · have hnone : after.inputShapes[port]? = none := by
      rw [Layer.inputShapes, List.getElem?_eq_none_iff, List.length_map,
        Layer.length_inputs_of_skeleton h.skeleton_eq]
      exact Nat.not_lt.1 hlt
    rw [hnone, Option.map_none]

/-- Shapes that were requested once need not be requested again. -/
theorem requestedShapes_of_requested (hskeleton : after.skeleton = layer.skeleton)
    (hfewer : ∀ name shape, fewer.get? name = some shape → overrides.get? name = some shape)
    (h : after.outputShapes = layer.requestedShapes overrides) :
    after.requestedShapes fewer = after.outputShapes := by
  have hname := (Layer.skeleton_eq_iff.1 hskeleton).2.2.2.2.1
  rw [Layer.requestedShapes, Layer.outputShapes, List.map_inj_left]
  intro port hport
  obtain ⟨place, hplace⟩ := List.mem_iff_getElem?.1 hport
  have hnames := congrArg (·[place]?) hname
  have hshapes := congrArg (·[place]?) h
  simp only [Layer.outputShapes, Layer.requestedShapes, List.getElem?_map, hplace,
    Option.map_some] at hnames hshapes
  obtain ⟨old, hold, hsame⟩ := Option.map_eq_some_iff.1 hnames.symm
  rw [hold, Option.map_some, Option.some.injEq, hsame] at hshapes
  cases hrequest : fewer.get? port.name with
  | none => rfl
  | some shape =>
    rw [hfewer _ _ hrequest] at hshapes
    exact hshapes.symm

theorem declare_declare (hblobs : after.blobs = layer.blobs)
    (h : after.outputShapes = Launcher.declare layer .constant) :
    Launcher.declare after .constant = after.outputShapes := by
  rw [declare_constant] at h ⊢
  rw [hblobs]
  cases hblob : layer.blobs.values.head? with
  | none => rfl
  | some blob =>
    rw [hblob] at h
    rw [h]
    exact List.set_set ..

theorem Visited.unambiguous
    (h : Visited network reshaper overrides network result set layer launcher final inputs layer after)
    (hkind : launcher.kind = .input) : after.Unambiguous := by
  have houtputs := (h.computed.written h.madeFor h.matched (by simp [hkind]) h.written).2
  have hnot := (h.computed.exists_outputs_iff h.madeFor).1 ⟨_, houtputs⟩
  have hnames := (Layer.skeleton_eq_iff.1 h.skeleton_eq).2.2.2.2.1
  rw [Launcher.Ambiguous, h.madeFor.outputNames_eq, not_and, not_not] at hnot
  rw [Layer.Unambiguous, hnames]
  exact hnot hkind

/-- The outputs that a run has given to a layer are those that a further run would give it. -/
theorem Visited.outputs_eq
    (h : Visited network reshaper overrides network result set layer launcher final inputs layer after)
    (hkind : launcher.kind ≠ .passThrough)
    (hconsistent : Consistent network reshaper overrides result launcher layer after)
    (hfewer : ∀ name shape, fewer.get? name = some shape → overrides.get? name = some shape) :
    match launcher.kind with
    | .ordinary rule => rule after.inputShapes after.params after.blobs = .ok after.outputShapes
    | .input => after.Unambiguous ∧ after.requestedShapes fewer = after.outputShapes
    | kind => Launcher.declare after kind = after.outputShapes := by
  obtain ⟨-, -, -, -, -, hparams, hblobs, -⟩ := Layer.skeleton_eq_iff.1 h.skeleton_eq
  have houtputs := hconsistent.outputs
  cases hcase : launcher.kind with
  | ordinary rule =>
    rw [hcase] at houtputs
    rw [hparams, hblobs]
    exact houtputs
  | input =>
    rw [hcase] at houtputs
    exact ⟨h.unambiguous hcase, requestedShapes_of_requested h.skeleton_eq hfewer houtputs⟩
  | constant =>
    rw [hcase] at houtputs
    exact declare_declare hblobs (houtputs.trans (declare_constant layer).symm)
  | memoryOutput => rfl
  | passThrough => exact absurd hcase hkind

/-- An accepted run leaves a network that is settled for any reshaper built for it. -/
theorem settles_of_run (hnetwork : network.WellFormed)
    (hbuild : (build network registry).outcome = .ok reshaper)
    (hrun : (reshaper.run network overrides).journal.outcome = .ok ())
    (hother : (build (reshaper.run network overrides).network registry).outcome = .ok other)
    (hfewer : ∀ name shape, fewer.get? name = some shape → overrides.get? name = some shape) :
    other.Settles (reshaper.run network overrides).network fewer := by
  have hmade := (build_eq_ok hnetwork hbuild).1
  obtain ⟨located, seeded, set, hlocated, hseeded, hpulled, hwritten⟩ :=
    run_eq_ok hnetwork hnetwork hmade hrun
  have hskeleton := hwritten.skeleton_eq
  have hresult := hnetwork.of_skeleton hskeleton
  intro id after launcher' hafter hget'
  obtain ⟨layer, hlayer, hsame⟩ := Network.exists_layer_of_skeleton hskeleton hafter
  obtain ⟨launcher, final, inputs, hvisited⟩ :=
    exists_visited_self hnetwork hmade hlocated hseeded hpulled hwritten hlayer hafter
  rw [kind_of_builds hnetwork hresult hskeleton hbuild hother hlayer hafter hsame.symm
    hvisited.launcher_eq hget']
  have harriving := hvisited.arriving_eq hnetwork hskeleton
    fun hlayer hafter => exists_visited_self hnetwork hmade hlocated hseeded hpulled hwritten hlayer
      hafter
  refine ⟨?_, harriving⟩
  by_cases hkind : launcher.kind = .passThrough
  · rw [hkind]
    rfl
  · have hconsistent := hvisited.consistent hnetwork
      (exists_visited hnetwork hnetwork hmade hlocated hseeded hpulled hwritten) hlayer hkind
    exact hvisited.outputs_eq hkind hconsistent hfewer

end

end Reshaper

namespace Network

variable {network : Network} {registry : Registry} {overrides fewer : Overrides}

theorem inferShapes_of_build {reshaper : Reshaper}
    (hbuild : (Reshaper.build network registry).outcome = .ok reshaper) :
    (network.inferShapes registry ⟨.legacy, overrides⟩).network =
        (reshaper.run network overrides).network ∧
      (network.inferShapes registry ⟨.legacy, overrides⟩).journal.outcome =
        (reshaper.run network overrides).journal.outcome := by
  simp only [inferShapes, inferLegacy, hbuild, and_self]

theorem exists_build_of_inferShapes
    (h : (network.inferShapes registry ⟨.legacy, overrides⟩).journal.outcome = .ok ()) :
    ∃ reshaper, (Reshaper.build network registry).outcome = .ok reshaper := by
  cases hbuild : (Reshaper.build network registry).outcome with
  | ok reshaper => exact ⟨reshaper, rfl⟩
  | error cause =>
    simp [inferShapes, inferLegacy, hbuild] at h

/-- A second run with the same requests or fewer is accepted, and changes nothing. -/
theorem inferShapes_fixed (hnetwork : network.Built)
    (hrun : (network.inferShapes registry ⟨.legacy, overrides⟩).journal.outcome = .ok ())
    (hfewer : ∀ name shape, fewer.get? name = some shape → overrides.get? name = some shape) :
    ((network.inferShapes registry ⟨.legacy, overrides⟩).network.inferShapes registry
        ⟨.legacy, fewer⟩).journal.outcome = .ok () ∧
      ((network.inferShapes registry ⟨.legacy, overrides⟩).network.inferShapes registry
        ⟨.legacy, fewer⟩).network = (network.inferShapes registry ⟨.legacy, overrides⟩).network := by
  have hformed := hnetwork.wellFormed
  obtain ⟨reshaper, hbuild⟩ := exists_build_of_inferShapes hrun
  obtain ⟨hleft, houtcome⟩ := @inferShapes_of_build _ _ overrides _ hbuild
  rw [houtcome] at hrun
  rw [hleft]
  have hskeleton := Reshaper.skeleton_run reshaper network overrides
  have hresult := hformed.of_skeleton hskeleton
  obtain ⟨other, hother⟩ := Reshaper.exists_build hformed hresult hskeleton hbuild
  have hsettles := Reshaper.settles_of_run hformed hbuild hrun hother hfewer
  obtain ⟨hleft', houtcome'⟩ := @inferShapes_of_build _ _ fewer _ hother
  rw [hleft', houtcome']
  exact Reshaper.run_of_settles hresult (Reshaper.build_eq_ok hresult hother).1 hsettles

/-- The shape requested once stays. -/
theorem sample_fixed :
    ((sample.inferShapes .builtIn ⟨.legacy, sampleRequest⟩).network.inferShapes .builtIn
        ⟨.legacy, .empty⟩).journal.outcome = .ok () ∧
      ((sample.inferShapes .builtIn ⟨.legacy, sampleRequest⟩).network.inferShapes .builtIn
        ⟨.legacy, .empty⟩).network =
          (sample.inferShapes .builtIn ⟨.legacy, sampleRequest⟩).network := by
  have hrun : (sample.inferShapes .builtIn ⟨.legacy, sampleRequest⟩).journal.outcome = .ok () := by
    decide +kernel
  exact inferShapes_fixed built_sample hrun fun name shape hnone => by simp at hnone

end Network

end ShapeFlow
