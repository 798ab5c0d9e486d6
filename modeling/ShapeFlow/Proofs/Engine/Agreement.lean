import ShapeFlow.Proofs.Engine.Atomicity
import ShapeFlow.Proofs.Engine.Comparison

/-!
The two engines agree. After every layer the launchers of one engine and the table of the other hold
the same shapes, so that both fail at the same layer for the same reason, or leave the same network.
-/

namespace ShapeFlow

/-- The launchers and the table once the layers listed are done. -/
structure Aligned (network : Network) (registry : Registry) (overrides : Overrides)
    (seeded : LauncherSet) (done : List LayerId) (set : LauncherSet) (scratch : List LayerShapes) :
    Prop where
  pulled : Reshaper.Pulled seeded (done.map network.nameOf) set
  progress : Propagator.Progress network registry overrides done scratch
  matching : ∀ {id : LayerId} {layer : Layer} {shapes : LayerShapes}, id ∈ done →
    network.layers[id]? = some layer → scratch[id]? = some shapes →
      ∃ final, set.get layer.name = .ok final ∧ Matching shapes.inputs final shapes.outputs

section

variable {network : Network} {registry : Registry} {overrides : Overrides} {reshaper : Reshaper}
  {seeded set : LauncherSet} {scratch : List LayerShapes} {order done rest : List LayerId}
  {id : LayerId} {layer : Layer} {launcher : Launcher} {shapes : LayerShapes}

/-! ### One step of both engines -/

/-- The launcher whose turn it is reads what the table holds for its layer. -/
theorem Aligned.inputShapes (hnetwork : network.WellFormed) (hsorts : network.Sorts order)
    (horder : order = done ++ id :: rest)
    (h : Aligned network registry overrides seeded done set scratch)
    (hlayer : network.layers[id]? = some layer) (hshapes : scratch[id]? = some shapes)
    (hmadeFor : launcher.MadeFor network layer) :
    launcher.inputShapes set = .ok shapes.inputs := by
  have hid := hnetwork.id_eq hlayer
  obtain ⟨shapes', hshapes', hinputs, -⟩ :=
    Propagator.exists_shapes_of_count h.progress.count_eq hlayer
  rw [hshapes] at hshapes'
  cases hshapes'
  refine hmadeFor.inputShapes_eq_ok_iff.2 ⟨hinputs, fun port declared shape hdeclared hshape => ?_⟩
  have hinput : inputAt scratch ⟨layer.id, port⟩ = some shape := by
    simp [inputAt, hid, hshapes, hshape]
  cases hproducer : network.producerOf? ⟨layer.id, port⟩ with
  | none =>
    have hunfed : inputAt scratch ⟨layer.id, port⟩ = network.inputShape? ⟨layer.id, port⟩ := by
      refine h.progress.unfed fun connection hmem htarget => ?_
      rw [← htarget, hnetwork.producers_iff.2 hmem] at hproducer
      cases hproducer
    rw [hinput, Network.inputShape?, inputAt, hid, Network.snapshot, List.getElem?_map, hlayer,
      Option.map_some, Option.bind_some, LayerShapes.ofLayer, hdeclared] at hunfed
    exact Option.some.inj hunfed
  | some producer =>
    have hmem := hnetwork.producers_iff.1 hproducer
    have hdone : producer.layer ∈ done := hsorts.source_mem horder _ hmem hid
    obtain ⟨feeding, hfeeding, -⟩ := hnetwork.source_exists _ hmem
    obtain ⟨given, hgiven, -, -⟩ := Propagator.exists_shapes_of_count h.progress.count_eq hfeeding
    obtain ⟨final, hget, hmatching⟩ := h.matching hdone hfeeding hgiven
    have houtput : given.outputs[producer.port]? = some shape := by
      have hfed := h.progress.fed _ hmem hdone
      rw [hinput, outputAt, hgiven, Option.bind_some] at hfed
      exact hfed.symm
    obtain ⟨hlt, rfl⟩ := List.getElem?_eq_some_iff.1 houtput
    refine ⟨final, ?_, (Launcher.outputs_eq_ok_iff.1 hmatching.outputs_eq).2 _ hlt⟩
    rw [Network.nameOf_eq hfeeding, hget]

theorem Aligned.advance (hnetwork : network.WellFormed) (hmade : reshaper.MadeFor network)
    (horder : network.topologicalOrder = .ok order) (hsplit : order = done ++ id :: rest)
    (hseeded : seeded.reset = reshaper.launchers.reset)
    (h : Aligned network registry overrides seeded done set scratch)
    (hlayer : network.layers[id]? = some layer) (hshapes : scratch[id]? = some shapes)
    {final : Launcher} {outputs : List Shape} (hname : final.layerName = layer.name)
    (hnext : set.reshape layer.name = .ok (set.insert final))
    (houtputs : Propagator.inferLayer registry layer shapes = .ok outputs)
    (hmatching : Matching shapes.inputs final outputs) :
    Aligned network registry overrides seeded (done ++ [id]) (set.insert final)
      (Propagator.advance network id outputs scratch) := by
  have hsorts := hnetwork.sorts horder
  refine ⟨?_, h.progress.advance hnetwork hsorts hsplit hlayer hshapes houtputs, ?_⟩
  · have hsorted := hmade.sortedLayers_eq horder
    rw [hsplit, List.map_append, List.map_cons] at hsorted
    rw [List.map_append, List.map_singleton]
    rw [← Network.nameOf_eq hlayer] at hnext
    exact h.pulled.step hnetwork hmade hseeded hsorted hnext
  · intro other layer' shapes' hother hlayer' hshapes'
    rw [Propagator.getElem?_advance_of_sorts hnetwork hsorts hsplit hother] at hshapes'
    rw [h.pulled.wellFormed.get_insert]
    by_cases heq : other = id
    · subst heq
      rw [hlayer] at hlayer'
      cases hlayer'
      rw [if_pos rfl, hshapes] at hshapes'
      cases hshapes'
      exact ⟨final, if_pos hname.symm, hmatching⟩
    · have hdone : other ∈ done := by simpa [heq] using hother
      have hne : layer'.name ≠ final.layerName := fun hsame =>
        heq (hnetwork.id_eq_of_name_eq hlayer' hlayer (hsame.trans hname))
      rw [if_neg (Ne.symm heq)] at hshapes'
      rw [if_neg hne]
      exact h.matching hdone hlayer' hshapes'

/-- One layer more is done by both engines, or refused by both. -/
theorem Aligned.step (hnetwork : network.WellFormed) (hcomparable : Comparable network registry overrides)
    (hbuild : (Reshaper.build network registry).outcome = .ok reshaper)
    (horder : network.topologicalOrder = .ok order) (hsplit : order = done ++ id :: rest)
    (hseeded : Reshaper.Seeded reshaper overrides reshaper.inputLayers seeded)
    (h : Aligned network registry overrides seeded done set scratch) :
    Alike (Aligned network registry overrides seeded (done ++ [id]))
      (Reshaper.step network set (network.nameOf id, id)).outcome
      (Propagator.step network registry scratch id).outcome := by
  have hsorts := hnetwork.sorts horder
  have hmade := (Reshaper.build_eq_ok hnetwork hbuild).1
  obtain ⟨layer, hlayer⟩ := hsorts.exists_layer (by simp [hsplit] : id ∈ order)
  obtain ⟨shapes, hshapes, -, hlength⟩ :=
    Propagator.exists_shapes_of_count h.progress.count_eq hlayer
  obtain ⟨launcher, hget⟩ := hmade.launchers.exists_get hlayer
  have hmadeFor := hmade.launchers.madeFor_layer hnetwork hlayer hget
  have hstart := h.pulled.get_eq hnetwork hsorts hsplit hseeded hlayer hget
  have hinputs := h.inputShapes hnetwork hsorts hsplit hlayer hshapes
    (hmadeFor.of_reset (Reshaper.reset_start overrides hmadeFor reshaper.inputLayers))
  have hpending := h.progress.pending (hsorts.not_mem_done hsplit) hlayer hshapes
  have hreshape : set.reshape layer.name = set.insert <$>
      (Reshaper.startLauncher reshaper.inputLayers overrides launcher).reshape shapes.inputs := by
    rw [LauncherSet.reshape, hstart, ok_bind, hinputs, ok_bind]
    cases (Reshaper.startLauncher reshaper.inputLayers overrides launcher).reshape shapes.inputs <;>
      rfl
  rw [Reshaper.outcome_step h.pulled.wellFormed hlayer, Propagator.outcome_step hlayer hshapes,
    Network.nameOf_eq hlayer]
  rcases alike_of_layer hnetwork hcomparable hbuild hlayer hget hlength hpending with
    ⟨final, outputs, hfinal, houtputs, hmatching⟩ | ⟨cause, hleft, hright⟩
  · have hnext : set.reshape layer.name = .ok (set.insert final) := by rw [hreshape, hfinal]; rfl
    have hname : final.layerName = layer.name :=
      (Launcher.layerName_of_reshape hfinal).trans (h.pulled.wellFormed.layerName_eq hstart)
    exact .inl ⟨_, _, hnext, by rw [houtputs]; rfl, h.advance hnetwork hmade horder hsplit
      hseeded.reset_eq hlayer hshapes hname hnext houtputs hmatching⟩
  · exact .inr ⟨cause, by rw [hreshape, hleft]; rfl, by rw [hright]; rfl⟩

/-! ### The loops of both engines -/

/-- The requests are accepted: an input layer that may be asked for a shape has a single output. -/
theorem Comparable.accepts (h : Comparable network registry overrides) (hnetwork : network.WellFormed)
    (hmem : layer ∈ network.layers) : Propagator.Accepts overrides layer := by
  intro shape hrequest hconst
  have hplace : layer.id ∈ network.inputLayers := by
    by_contra hnot
    rw [h.requests layer hmem hnot] at hrequest
    cases hrequest
  obtain ⟨reshaper, hbuild⟩ := h.buildable
  obtain ⟨id, hlayer⟩ := List.mem_iff_getElem?.1 hmem
  obtain ⟨launcher, hget⟩ := (Reshaper.build_eq_ok hnetwork hbuild).1.launchers.exists_get hlayer
  have hkind := Reshaper.kind_of_build hnetwork hbuild hlayer hget
  rw [if_pos hplace] at hkind
  have htype : layer.isType "input" = true ∨ layer.isType "memory" = true := by
    rcases Layer.inputKind_cases hkind with ⟨-, ⟨hmemory, -⟩ | ⟨-, hinput⟩⟩ | ⟨-, hconst'⟩
    · exact .inr hmemory
    · exact .inl hinput
    · rw [hconst] at hconst'
      cases hconst'
  simpa using congrArg List.length (h.outputs_eq layer hmem hplace htype)

/-- Both engines compute all shapes, or are refused at the same layer. -/
theorem alike_of_compute (hnetwork : network.WellFormed)
    (hcomparable : Comparable network registry overrides)
    (hbuild : (Reshaper.build network registry).outcome = .ok reshaper)
    (horder : network.topologicalOrder = .ok order) :
    ∃ seeded, Reshaper.Seeded reshaper overrides reshaper.inputLayers seeded ∧
      Alike (fun computed scratch => computed.1 = (order.map fun id => (network.nameOf id, id)) ∧
          Aligned network registry overrides seeded order computed.2 scratch)
        (reshaper.compute network overrides).outcome
        (propagate network registry overrides).outcome := by
  have hmade := (Reshaper.build_eq_ok hnetwork hbuild).1
  obtain ⟨seeded, hseeded, hpull⟩ := hmade.outcome_compute overrides hnetwork horder
  have haccepts : ∀ layer ∈ network.layers, Propagator.Accepts overrides layer :=
    fun layer hmem => hcomparable.accepts hnetwork hmem
  have hseed := (Propagator.seed_eq_ok_iff hnetwork).2 ⟨haccepts, rfl⟩
  have hpush : (propagate network registry overrides).outcome =
      order.foldlM (fun scratch id => (Propagator.step network registry scratch id).outcome)
        (network.layers.map (Propagator.start overrides)) := by
    simp only [propagate, Journal.outcome_bind, Journal.outcome_lift, hseed, horder,
      EngineError.ofNetwork, ok_bind, Journal.outcome_foldlM]
  have hstart : Aligned network registry overrides seeded [] seeded
      (network.layers.map (Propagator.start overrides)) :=
    ⟨.start hseeded.wellFormed, .start haccepts, by simp⟩
  refine ⟨seeded, hseeded, ?_⟩
  rw [hpull, hpush]
  rcases foldlM_alike (Aligned network registry overrides seeded) hstart
      (fun done id rest set scratch hsplit haligned =>
        haligned.step hnetwork hcomparable hbuild horder hsplit hseeded) with
    ⟨set, scratch, hleft, hright, haligned⟩ | ⟨cause, hleft, hright⟩
  · exact .inl ⟨_, scratch, by rw [hleft, ok_bind], hright, rfl, haligned⟩
  · exact .inr ⟨cause, by rw [hleft, error_bind], hright⟩

/-! ### Writing the shapes -/

theorem Matching.applyChanges {inputs outputs : List Shape} {final : Launcher}
    (h : Matching inputs final outputs) (hmadeFor : final.MadeFor network layer) :
    final.applyChanges layer = .ok (layer.setShapes ⟨inputs, outputs⟩) := by
  rw [Launcher.applyChanges_eq_ok_iff]
  split
  · next hpass => exact absurd hpass h.kind_ne
  · refine ⟨hmadeFor.layerName_eq.symm, hmadeFor.length_outShapes.symm, outputs, h.outputs_eq, ?_⟩
    rw [h.inShapes_eq]
    rfl

/-- Every launcher writes what the table holds for its layer. -/
theorem Aligned.exists_changed (hnetwork : network.WellFormed) (hmade : reshaper.MadeFor network)
    (hsorts : network.Sorts order) (hreset : seeded.reset = reshaper.launchers.reset)
    (h : Aligned network registry overrides seeded order set scratch)
    (hlayer : network.layers[id]? = some layer) :
    ∃ shapes final, scratch[id]? = some shapes ∧ set.get layer.name = .ok final ∧
      final.applyChanges layer = .ok (layer.setShapes shapes) ∧
        LayerShapes.ofLayer (layer.setShapes shapes) = shapes := by
  have hset : set.For network := hmade.launchers.of_reset h.pulled.wellFormed
    (h.pulled.reset_eq.trans hreset)
  obtain ⟨shapes, hshapes, hinputs, houtputs⟩ :=
    Propagator.exists_shapes_of_count h.progress.count_eq hlayer
  obtain ⟨final, hget, hmatching⟩ := h.matching (hsorts.mem_of_layer hlayer) hlayer hshapes
  exact ⟨shapes, final, hshapes, hget,
    hmatching.applyChanges (hset.madeFor_layer hnetwork hlayer hget),
    Layer.ofLayer_setShapes hinputs houtputs⟩

/-- The launchers write all shapes, and leave those of the table. -/
theorem Aligned.written (hnetwork : network.WellFormed) (hmade : reshaper.MadeFor network)
    (hsorts : network.Sorts order) (hreset : seeded.reset = reshaper.launchers.reset)
    (h : Aligned network registry overrides seeded order set scratch) :
    ∃ next, Reshaper.writeBack set network (order.map fun id => (network.nameOf id, id)) =
      (next, .ok ()) ∧ next.skeleton = network.skeleton ∧ next.snapshot = scratch := by
  have hnodup : ((order.map fun id => (network.nameOf id, id)).map Prod.snd).Nodup := by
    simpa [Function.comp_def] using hsorts.nodup
  have hwritable : ∀ entry ∈ order.map fun id => (network.nameOf id, id),
      Reshaper.Writable set network entry := by
    intro entry hentry
    obtain ⟨id, hid, rfl⟩ := List.mem_map.1 hentry
    obtain ⟨layer, hlayer⟩ := hsorts.exists_layer hid
    obtain ⟨shapes, final, -, hget, hchanged, -⟩ := h.exists_changed hnetwork hmade hsorts hreset hlayer
    exact ⟨final, layer, _, by rwa [Network.nameOf_eq hlayer], hlayer, hchanged⟩
  obtain ⟨next, hnext, hwritten⟩ := Reshaper.writeBack_of_writable hnodup hwritable
  have hlength : scratch.length = network.layers.length := by
    simpa [Network.snapshot] using congrArg List.length h.progress.count_eq
  refine ⟨next, hnext, hwritten.skeleton_eq, ?_⟩
  refine Network.snapshot_eq_of_layers hwritten.skeleton_eq hlength fun {id layer} hlayer => ?_
  obtain ⟨shapes, final, hshapes, hget, hchanged, hfits⟩ :=
    h.exists_changed hnetwork hmade hsorts hreset hlayer
  have hentry : (layer.name, id) ∈ order.map fun id => (network.nameOf id, id) :=
    List.mem_map.2 ⟨id, hsorts.mem_of_layer hlayer, by rw [Network.nameOf_eq hlayer]⟩
  obtain ⟨final', changed, hget', hchanged', hafter⟩ := hwritten.written hentry hlayer
  rw [hget] at hget'
  cases hget'
  rw [hchanged] at hchanged'
  cases hchanged'
  exact ⟨_, hafter, by rw [hshapes, hfits]⟩

/-- Both engines leave the same network, or both refuse with the same error and leave the network as
it was. -/
theorem inferShapes_agree (hnetwork : network.Built) (h : Comparable network registry overrides) :
    ((network.inferShapes registry ⟨.legacy, overrides⟩).journal.outcome = .ok () ∧
      (network.inferShapes registry ⟨.transactional, overrides⟩).journal.outcome = .ok () ∧
      (network.inferShapes registry ⟨.legacy, overrides⟩).network =
        (network.inferShapes registry ⟨.transactional, overrides⟩).network) ∨
    ∃ cause,
      (network.inferShapes registry ⟨.legacy, overrides⟩).journal.outcome = .error cause ∧
      (network.inferShapes registry ⟨.transactional, overrides⟩).journal.outcome = .error cause ∧
      (network.inferShapes registry ⟨.legacy, overrides⟩).network = network ∧
      (network.inferShapes registry ⟨.transactional, overrides⟩).network = network := by
  have hformed := hnetwork.wellFormed
  obtain ⟨reshaper, hbuild⟩ := h.buildable
  have hmade := (Reshaper.build_eq_ok hformed hbuild).1
  obtain ⟨order, horder, -⟩ := hmade.sorted
  obtain ⟨seeded, hseeded, halike⟩ := alike_of_compute hformed h hbuild horder
  simp only [Network.inferShapes, Network.inferLegacy, Network.inferTransactional, hbuild,
    Reshaper.run]
  rcases halike with ⟨⟨located, set⟩, scratch, hpull, hpush, hlocated, haligned⟩ |
    ⟨cause, hpull, hpush⟩
  · dsimp only at hlocated
    subst hlocated
    obtain ⟨next, hnext, hskeleton, hsnapshot⟩ :=
      haligned.written hformed hmade (hformed.sorts horder) hseeded.reset_eq
    obtain ⟨result, hresult, hskeleton', hsnapshot'⟩ := Propagator.propagateInto_of_ok hformed hpush
    rw [hpull, hresult]
    dsimp only
    rw [hnext]
    refine .inl ⟨rfl, rfl, Network.eq_of_snapshot ?_ ?_⟩
    · exact hskeleton.trans hskeleton'.symm
    · exact hsnapshot.trans hsnapshot'.symm
  · rw [hpull, Propagator.propagateInto_of_error hpush]
    exact .inr ⟨cause, rfl, rfl, rfl, rfl⟩

end

theorem comparable_sample : Comparable .sample .builtIn Network.sampleRequest where
  extended := .builtIn
  buildable := Reshaper.exists_build_sample
  registered := by decide +kernel
  inputs_eq := by decide +kernel
  outputs_eq := by decide +kernel
  constant_eq := by
    have hnone : ∀ layer ∈ Network.sample.layers, layer.isType "const" = false := by decide +kernel
    intro layer hmem hconst
    rw [hnone layer hmem] at hconst
    cases hconst
  memory_eq := by
    have hnone : ∀ layer ∈ Network.sample.layers, layer.isType "memory" = false := by decide +kernel
    intro layer hmem hmemory
    rw [hnone layer hmem] at hmemory
    cases hmemory
  requests := by decide +kernel

theorem sample_agree : (Network.sample.inferShapes .builtIn
      ⟨.legacy, Network.sampleRequest⟩).network =
    (Network.sample.inferShapes .builtIn ⟨.transactional, Network.sampleRequest⟩).network := by
  rcases inferShapes_agree Network.built_sample comparable_sample with
    ⟨-, -, heq⟩ | ⟨cause, hrefused, -⟩
  · exact heq
  · have hdone : (Network.sample.inferShapes .builtIn
        ⟨.legacy, Network.sampleRequest⟩).journal.outcome = .ok () := by
      decide +kernel
    rw [hdone] at hrefused
    cases hrefused

end ShapeFlow
