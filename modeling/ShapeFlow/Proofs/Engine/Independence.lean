import ShapeFlow.Proofs.Engine.Consistency

/-!
Runs do not depend on the shapes a network has. What a run reads of the network is in the skeleton; the
shapes it starts from were declared when the launchers were made. Runs on networks of one structure end
alike, and leave the same shapes wherever shapes are written.
-/

namespace ShapeFlow

/-! ### What is read of a network -/

theorem EngineError.ofNetwork_layer_skeleton (network : Network) (id : LayerId) :
    ofNetwork (network.skeleton.layer id) = Layer.skeleton <$> ofNetwork (network.layer id) := by
  rw [network.layer_skeleton]
  cases network.layer id <;> rfl

theorem resolveSources_skeleton (layer : Layer) (network : Network) :
    resolveSources layer.skeleton network.skeleton = resolveSources layer network := by
  unfold resolveSources
  rw [layer.length_inputs_skeleton]
  apply mapM_congr
  intro port _
  have hproducer : network.skeleton.producerOf? ⟨layer.skeleton.id, port⟩ =
      network.producerOf? ⟨layer.id, port⟩ := rfl
  rw [hproducer]
  cases network.producerOf? ⟨layer.id, port⟩ with
  | none => rfl
  | some producer =>
    dsimp only
    rw [network.layer_skeleton]
    cases network.layer producer.layer <;> rfl

namespace Launcher

theorem checkLayer_skeleton (launcher : Launcher) (layer : Layer) (network : Network) :
    launcher.checkLayer layer.skeleton network.skeleton = launcher.checkLayer layer network := by
  simp only [checkLayer, resolveSources_skeleton, Layer.name_skeleton, Layer.length_inputs_skeleton,
    Layer.map_name_outputs_skeleton]

/-- Whether shapes can be applied to a layer does not depend on the shapes it has. -/
theorem applyChanges_skeleton (launcher : Launcher) (layer : Layer) :
    Layer.skeleton <$> launcher.applyChanges layer.skeleton =
      Layer.skeleton <$> launcher.applyChanges layer := by
  have hwrite : ∀ shapes : List Shape, { layer.skeleton with
      inputs := setShapes layer.skeleton.inputs (launcher.inShapes.getD [])
      outputs := setShapes layer.skeleton.outputs shapes : Layer }.skeleton = layer.skeleton := by
    intro shapes
    rw [Layer.skeleton_write, Layer.skeleton_skeleton]
  unfold applyChanges
  cases launcher.kind with
  | passThrough => exact congrArg Except.ok layer.skeleton_skeleton
  | _ =>
    simp only [Layer.name_skeleton, Layer.length_outputs_skeleton]
    split
    · rfl
    · cases (List.range launcher.outShapes.length).mapM launcher.outputShape with
      | error cause => rfl
      | ok shapes =>
        rw [ok_bind, ok_bind, map_ok, map_ok, Layer.skeleton_write]
        exact congrArg Except.ok (hwrite shapes)

end Launcher

namespace Reshaper

variable {first second : Network}

theorem locate_skeleton (reshaper : Reshaper) (network : Network) :
    reshaper.locate network.skeleton = reshaper.locate network := by
  have hcheck : ∀ (entry : String × LayerId) (launcher : Launcher),
      (EngineError.ofNetwork (network.skeleton.layer entry.2) >>= fun layer =>
        launcher.checkLayer layer network.skeleton) =
      EngineError.ofNetwork (network.layer entry.2) >>= fun layer =>
        launcher.checkLayer layer network := by
    intro entry launcher
    rw [EngineError.ofNetwork_layer_skeleton]
    cases EngineError.ofNetwork (network.layer entry.2) with
    | error cause => rfl
    | ok layer => exact launcher.checkLayer_skeleton layer network
  simp only [locate, hcheck]
  rfl

theorem seedLayer_skeleton (network : Network) (overrides : Overrides) :
    seedLayer network.skeleton overrides = seedLayer network overrides := by
  have hports : ∀ (layer : Layer) (launcher : Launcher),
      layer.skeleton.outputs.foldlM (seedPort overrides) launcher =
        layer.outputs.foldlM (seedPort overrides) launcher :=
    fun layer launcher => List.foldlM_map
  funext set name
  simp only [seedLayer, EngineError.ofNetwork_layer_skeleton, Journal.lift_map, bind_map_left, hports]
  rfl

theorem step_skeleton (network : Network) : step network.skeleton = step network := by
  funext set entry
  simp only [step, EngineError.ofNetwork_layer_skeleton, Journal.lift_map, bind_map_left,
    Layer.length_outputs_skeleton]

/-- The shapes are computed from the launchers, the requests and the skeleton of the network. -/
theorem compute_skeleton (reshaper : Reshaper) (network : Network) (overrides : Overrides) :
    reshaper.compute network.skeleton overrides = reshaper.compute network overrides := by
  simp only [compute, locate_skeleton, seedLayer_skeleton, step_skeleton]

theorem compute_of_skeleton (h : first.skeleton = second.skeleton) (reshaper : Reshaper)
    (overrides : Overrides) : reshaper.compute first overrides = reshaper.compute second overrides := by
  rw [← compute_skeleton, h, compute_skeleton]

theorem writeLayer_skeleton (set : LauncherSet) (network : Network) (entry : String × LayerId) :
    Network.skeleton <$> writeLayer set network.skeleton entry =
      Network.skeleton <$> writeLayer set network entry := by
  unfold writeLayer
  cases set.get entry.1 with
  | error cause => rfl
  | ok launcher =>
    rw [ok_bind, ok_bind, EngineError.ofNetwork_layer_skeleton]
    cases hlayer : network.layer entry.2 with
    | error cause => rfl
    | ok layer =>
      have hskeleton : network.skeleton.layer entry.2 = .ok layer.skeleton := by
        rw [network.layer_skeleton, hlayer, map_ok]
      simp only [EngineError.ofNetwork, map_ok, ok_bind, Network.modifyLayer, hlayer, hskeleton]
      rcases alike_of_map_eq (launcher.applyChanges_skeleton layer) with
        ⟨blank, changed, hblank, hchanged, hsame⟩ | ⟨cause, hblank, hchanged⟩
      · rw [hblank, hchanged]
        simp [Network.skeleton, hsame, Function.comp_def]
      · rw [hblank, hchanged]
        rfl

theorem writeBack_of_skeleton (h : first.skeleton = second.skeleton) (set : LauncherSet)
    (entries : List (String × LayerId)) :
    (writeBack set first entries).2 = (writeBack set second entries).2 := by
  induction entries generalizing first second with
  | nil => rfl
  | cons entry rest ih =>
    have hwritten : Network.skeleton <$> writeLayer set first entry =
        Network.skeleton <$> writeLayer set second entry := by
      rw [← writeLayer_skeleton, h, writeLayer_skeleton]
    unfold writeBack
    rcases alike_of_map_eq hwritten with ⟨left, right, hleft, hright, hsame⟩ | ⟨cause, hleft, hright⟩
    · rw [hleft, hright]
      exact ih hsame
    · rw [hleft, hright]

/-- Runs on networks of one structure end alike. -/
theorem journal_run_of_skeleton (h : first.skeleton = second.skeleton) (reshaper : Reshaper)
    (overrides : Overrides) :
    (reshaper.run first overrides).journal = (reshaper.run second overrides).journal := by
  simp only [run, compute_of_skeleton h]
  cases (reshaper.compute second overrides).outcome with
  | error cause => rfl
  | ok computed =>
    obtain ⟨located, set⟩ := computed
    exact congrArg (Journal.mk (reshaper.compute second overrides).entries)
      (writeBack_of_skeleton h set located)

section

variable {network left right : Network} {reshaper : Reshaper} {overrides : Overrides}
  {set : LauncherSet} {layer before before' after after' : Layer}
  {launcher launcher' final final' : Launcher} {inputs inputs' : List Shape}

/-- The shapes that are written to a layer are those of the launchers. -/
theorem Visited.shapes_eq
    (h : Visited network reshaper overrides first left set layer launcher final inputs before after)
    (h' : Visited network reshaper overrides second right set layer launcher' final' inputs' before'
      after') (hkind : launcher.kind ≠ .passThrough) :
    after.inputShapes = after'.inputShapes ∧ after.outputShapes = after'.outputShapes := by
  have hlauncher := h'.launcher_eq
  rw [h.launcher_eq, Except.ok.injEq] at hlauncher
  subst hlauncher
  have hfinal := h'.computed.get_eq
  rw [h.computed.get_eq, Except.ok.injEq] at hfinal
  subst hfinal
  have hreads := h'.computed.reads
  rw [h.computed.reads, Except.ok.injEq] at hreads
  subst hreads
  obtain ⟨hinputs, houtputs⟩ := h.computed.written h.madeFor h.matched hkind h.written
  obtain ⟨hinputs', houtputs'⟩ := h'.computed.written h'.madeFor h'.matched hkind h'.written
  rw [houtputs, Except.ok.injEq] at houtputs'
  exact ⟨hinputs.trans hinputs'.symm, houtputs'⟩

/-- Accepted runs on networks of one structure leave the same shapes where shapes are written. -/
theorem shapes_run_of_skeleton (hnetwork : network.WellFormed) (hmade : reshaper.MadeFor network)
    (hfirst : first.WellFormed) (hsecond : second.WellFormed) (h : first.skeleton = second.skeleton)
    (hrun : (reshaper.run first overrides).journal.outcome = .ok ()) {id : LayerId}
    (hafter : (reshaper.run first overrides).network.layers[id]? = some after)
    (hafter' : (reshaper.run second overrides).network.layers[id]? = some after')
    (hget : reshaper.launcher after.name = .ok launcher) (hkind : launcher.kind ≠ .passThrough) :
    after.inputShapes = after'.inputShapes ∧ after.outputShapes = after'.outputShapes := by
  obtain ⟨located, set, hcompute, hwritten⟩ := exists_written_of_run hrun
  rw [journal_run_of_skeleton h] at hrun
  obtain ⟨located', set', hcompute', hwritten'⟩ := exists_written_of_run hrun
  obtain ⟨hlocated, seeded, hseeded, hpulled⟩ := pulled_of_compute hnetwork hfirst hmade hcompute
  rw [compute_of_skeleton h, hcompute', Except.ok.injEq, Prod.mk.injEq] at hcompute
  obtain ⟨rfl, rfl⟩ := hcompute
  obtain ⟨hlocated', -⟩ := pulled_of_compute hnetwork hsecond hmade hcompute'
  have hwritten := written_of_writeBack (hlocated.nodup_ids hnetwork hmade) hwritten
  have hwritten' := written_of_writeBack (hlocated'.nodup_ids hnetwork hmade) hwritten'
  obtain ⟨place, layer, hlayer, hname, -⟩ := hmade.launchers.madeFor hget
  obtain ⟨_, _, _, _, found, hvisited⟩ :=
    exists_visited hnetwork hfirst hmade hlocated hseeded hpulled hwritten hlayer
  obtain ⟨_, _, _, _, found', hvisited'⟩ :=
    exists_visited hnetwork hsecond hmade hlocated' hseeded hpulled hwritten' hlayer
  -- the layers at one place of both results are the layers of one name
  have hskeleton : (reshaper.run first overrides).network.skeleton =
      (reshaper.run second overrides).network.skeleton := by
    rw [hwritten.skeleton_eq, h, hwritten'.skeleton_eq]
  obtain ⟨other, hother, hsame⟩ := Network.exists_layer_of_skeleton hskeleton hafter
  rw [hafter', Option.some.injEq] at hother
  subst hother
  have hfound : found = after :=
    (hfirst.of_skeleton hwritten.skeleton_eq).eq_of_layerByName? hvisited.after_eq hafter hname.symm
  have hfound' : found' = after' :=
    (hsecond.of_skeleton hwritten'.skeleton_eq).eq_of_layerByName? hvisited'.after_eq hafter'
      ((Layer.name_of_skeleton hsame).trans hname.symm)
  subst hfound hfound'
  have hlauncher := hvisited.launcher_eq
  rw [hname, hget, Except.ok.injEq] at hlauncher
  exact hvisited.shapes_eq hvisited' (hlauncher ▸ hkind)

end

end Reshaper

end ShapeFlow
