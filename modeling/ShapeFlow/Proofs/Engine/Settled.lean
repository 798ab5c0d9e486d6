import ShapeFlow.Proofs.Engine.Agreement
import ShapeFlow.Proofs.Engine.Atomicity

/-!
Networks that a run leaves as they are. Every layer has at its inputs what arrives there, and at its
outputs what its kind of launcher gives them; along the order each launcher then finds the shapes that
its layer already has.
-/

namespace ShapeFlow

namespace Network

/-- The shape that an output port has in the network. -/
def outputShape (network : Network) (output : PortRef) : Shape :=
  (network.layers[output.layer]? >>= fun layer => layer.outputShapes[output.port]?).getD []

/-- The shapes at the inputs of a layer: those of the outputs that feed them, or its own. -/
def arriving (network : Network) (layer : Layer) : List Shape :=
  layer.inputShapes.mapIdx fun port declared =>
    ((network.producerOf? ⟨layer.id, port⟩).map network.outputShape).getD declared

end Network

/-- The layer has the shapes that a launcher of the kind would give it. -/
structure Layer.Settled (network : Network) (overrides : Overrides) (kind : LauncherKind)
    (layer : Layer) : Prop where
  outputs_eq : match kind with
    | .ordinary rule => rule layer.inputShapes layer.params layer.blobs = .ok layer.outputShapes
    | .input => layer.Unambiguous ∧ layer.requestedShapes overrides = layer.outputShapes
    | kind => Launcher.declare layer kind = layer.outputShapes
  arriving_eq : kind ≠ .passThrough → network.arriving layer = layer.inputShapes

namespace Reshaper

/-- Every layer is settled for the launcher that the reshaper has for it. -/
def Settles (reshaper : Reshaper) (network : Network) (overrides : Overrides) : Prop :=
  ∀ ⦃id : LayerId⦄ ⦃layer : Layer⦄ ⦃launcher : Launcher⦄, network.layers[id]? = some layer →
    reshaper.launchers.get layer.name = .ok launcher →
      layer.Settled network overrides launcher.kind

/-- The launcher in the set has the shapes of the layer. -/
structure Keeps (set : LauncherSet) (layer : Layer) (final : Launcher) : Prop where
  get_eq : set.get layer.name = .ok final
  outputs_eq : final.outputs = .ok layer.outputShapes
  inShapes_eq : final.kind ≠ .passThrough → final.inShapes = some layer.inputShapes

section

variable {network : Network} {reshaper : Reshaper} {overrides : Overrides}
  {seeded set : LauncherSet} {layer : Layer} {launcher : Launcher} {id : LayerId}

theorem Keeps.outputShape {final : Launcher} (h : Keeps set layer final)
    (hlayer : network.layers[id]? = some layer) {port : Nat} (hport : port < layer.outputs.length) :
    final.outputShape port = .ok (network.outputShape ⟨id, port⟩) := by
  have hlt : port < layer.outputShapes.length := by simpa [Layer.outputShapes] using hport
  have hshape : network.outputShape ⟨id, port⟩ = layer.outputShapes[port] := by
    simp [Network.outputShape, hlayer, hlt]
  rw [hshape]
  exact (Launcher.outputs_eq_ok_iff.1 h.outputs_eq).2 port hlt

/-- A launcher whose sources keep the shapes of their layers reads what arrives. -/
theorem inputShapes_eq_arriving (hnetwork : network.WellFormed)
    (hmadeFor : launcher.MadeFor network layer)
    (hsources : ∀ connection ∈ network.connections, connection.target.layer = layer.id →
      ∀ feeding, network.layers[connection.source.layer]? = some feeding →
        ∃ final, Keeps set feeding final) :
    launcher.inputShapes set = .ok (network.arriving layer) := by
  rw [hmadeFor.inputShapes_eq_ok_iff]
  refine ⟨by simp [Network.arriving, Layer.inputShapes], fun port declared shape hdeclared hshape => ?_⟩
  rw [Network.arriving, List.getElem?_mapIdx, hdeclared, Option.map_some, Option.some.injEq] at hshape
  subst hshape
  cases hproducer : network.producerOf? ⟨layer.id, port⟩ with
  | none => rfl
  | some producer =>
    have hmem := hnetwork.producers_iff.1 hproducer
    obtain ⟨feeding, hfeeding, hport⟩ := hnetwork.source_exists _ hmem
    obtain ⟨final, hkeeps⟩ := hsources _ hmem rfl feeding hfeeding
    exact ⟨final, by rw [Network.nameOf_eq hfeeding, hkeeps.get_eq], hkeeps.outputShape hfeeding hport⟩

theorem exists_reshape (hsettled : layer.Settled network overrides launcher.kind)
    (hmadeFor : launcher.MadeFor network layer) :
    ∃ final, launcher.reshape (network.arriving layer) = .ok final := by
  have houtputs := hsettled.outputs_eq
  simp only [Launcher.reshape_eq_ok_iff]
  cases hkind : launcher.kind with
  | ordinary rule =>
    rw [hkind] at houtputs
    refine ⟨_, layer.outputShapes, ?_, ?_, rfl⟩
    · rw [hsettled.arriving_eq (by simp [hkind]), hmadeFor.params_eq, hmadeFor.blobs_eq]
      exact houtputs
    · simp [Layer.outputShapes, hmadeFor.length_declaredOutputs]
  | _ => exact ⟨_, rfl⟩

theorem Final.keeps_of_settled {final : Launcher}
    (h : Final overrides set layer launcher final (network.arriving layer))
    (hsettled : layer.Settled network overrides launcher.kind) : Keeps set layer final := by
  have hgives := h.gives
  have houtputs := hsettled.outputs_eq
  refine ⟨h.get_eq, ?_, fun hkind => ?_⟩
  · cases hkind : launcher.kind with
    | ordinary rule =>
      rw [hkind] at hgives houtputs
      obtain ⟨outputs, hrule, -, hfinal⟩ := hgives
      rw [hsettled.arriving_eq (by simp [hkind])] at hrule
      dsimp only at houtputs
      rw [hrule] at houtputs
      cases houtputs
      exact hfinal
    | input =>
      rw [hkind] at hgives houtputs
      rw [hgives.1 houtputs.1, houtputs.2]
    | _ =>
      rw [hkind] at hgives houtputs
      exact hgives.trans (congrArg Except.ok houtputs)
  · rw [Launcher.kind_of_reset h.reset_eq] at hkind
    rw [h.keeps hkind, hsettled.arriving_eq hkind]

/-- What is kept while the layers are done in order: each of them has found its own shapes again. -/
structure Kept (network : Network) (seeded : LauncherSet) (done : List LayerId) (set : LauncherSet) :
    Prop where
  pulled : Pulled seeded (done.map network.nameOf) set
  keeps : ∀ {id : LayerId} {layer : Layer}, id ∈ done → network.layers[id]? = some layer →
    ∃ final, Keeps set layer final

theorem Kept.step (hnetwork : network.WellFormed) (hmade : reshaper.MadeFor network)
    (hsettles : reshaper.Settles network overrides)
    (hseeded : Seeded reshaper overrides reshaper.inputLayers seeded) {order done rest : List LayerId}
    (horder : network.topologicalOrder = .ok order) (hsplit : order = done ++ id :: rest)
    (h : Kept network seeded done set) :
    ∃ next, (step network set (network.nameOf id, id)).outcome = .ok next ∧
      Kept network seeded (done ++ [id]) next := by
  have hsorts := hnetwork.sorts horder
  obtain ⟨layer, hlayer⟩ := hsorts.exists_layer (by simp [hsplit] : id ∈ order)
  obtain ⟨launcher, hget⟩ := hmade.launchers.exists_get hlayer
  have hmadeFor := hmade.launchers.madeFor_layer hnetwork hlayer hget
  have hsettled := hsettles hlayer hget
  have hreset := reset_start overrides hmadeFor reshaper.inputLayers
  have hstartFor := hmadeFor.of_reset hreset
  have hstart := h.pulled.get_eq hnetwork hsorts hsplit hseeded hlayer hget
  have hsource : ∀ connection ∈ network.connections, connection.target.layer = layer.id →
      connection.source.layer ∈ done := fun connection hmem htarget =>
    hsorts.source_mem hsplit connection hmem (htarget.trans (hnetwork.id_eq hlayer))
  have hinputs := inputShapes_eq_arriving hnetwork hstartFor fun connection hmem htarget _ hfeeding =>
    h.keeps (hsource connection hmem htarget) hfeeding
  obtain ⟨final, hfinal⟩ :=
    exists_reshape (Launcher.kind_of_reset hreset ▸ hsettled) hstartFor
  have hnext : set.reshape layer.name = .ok (set.insert final) :=
    LauncherSet.reshape_eq_ok_iff.2 ⟨_, _, final, hstart, hinputs, hfinal, rfl⟩
  have hname : final.layerName = layer.name :=
    (Launcher.layerName_of_reshape hfinal).trans (h.pulled.wellFormed.layerName_eq hstart)
  have hpulled : Pulled seeded ((done ++ [id]).map network.nameOf) (set.insert final) := by
    have hsorted := hmade.sortedLayers_eq horder
    rw [hsplit, List.map_append, List.map_cons] at hsorted
    rw [List.map_append, List.map_singleton]
    rw [← Network.nameOf_eq hlayer] at hnext
    exact h.pulled.step hnetwork hmade hseeded.reset_eq hsorted hnext
  -- the layers done before keep their launchers
  have hdone : ∀ {other : LayerId} {before : Layer}, other ∈ done →
      network.layers[other]? = some before → ∃ final', Keeps (set.insert final) before final' := by
    intro other before hother hbefore
    obtain ⟨kept, hkept⟩ := h.keeps hother hbefore
    refine ⟨kept, ?_, hkept.outputs_eq, hkept.inShapes_eq⟩
    rw [h.pulled.wellFormed.get_insert, if_neg, hkept.get_eq]
    rw [hname]
    intro heq
    exact hsorts.not_mem_done hsplit (hnetwork.id_eq_of_name_eq hbefore hlayer heq ▸ hother)
  refine ⟨set.insert final, ?_, hpulled, fun {other before} hother hbefore => ?_⟩
  · rw [outcome_step h.pulled.wellFormed hlayer, Network.nameOf_eq hlayer, hnext]
  · rcases List.mem_append.1 hother with hother | hother
    · exact hdone hother hbefore
    · rw [List.mem_singleton.1 hother, hlayer] at hbefore
      cases hbefore
      have hmem : layer.name ∈ (done ++ [id]).map network.nameOf :=
        List.mem_map.2 ⟨id, by simp, Network.nameOf_eq hlayer⟩
      obtain ⟨final', inputs, hcomputed⟩ :=
        exists_final_of_mem hnetwork hmade hseeded hpulled hlayer hget hmem
      have hreads := inputShapes_eq_arriving hnetwork hmadeFor
        fun connection hconnection htarget _ hfeeding =>
          hdone (hsource connection hconnection htarget) hfeeding
      rw [hcomputed.reads, Except.ok.injEq] at hreads
      subst hreads
      exact ⟨final', hcomputed.keeps_of_settled hsettled⟩

theorem Keeps.applyChanges {final : Launcher} (h : Keeps set layer final)
    (hmadeFor : final.MadeFor network layer) : final.applyChanges layer = .ok layer := by
  rw [Launcher.applyChanges_eq_ok_iff]
  split
  · rfl
  · next hkind =>
    refine ⟨hmadeFor.layerName_eq.symm, hmadeFor.length_outShapes.symm, _, h.outputs_eq, ?_⟩
    rw [h.inShapes_eq hkind, Option.getD_some, Layer.inputShapes, Layer.outputShapes,
      setShapes_map_shape, setShapes_map_shape]

/-- A run leaves a network that is settled as it is. -/
theorem run_of_settles (hnetwork : network.WellFormed) (hmade : reshaper.MadeFor network)
    (hsettles : reshaper.Settles network overrides) :
    (reshaper.run network overrides).journal.outcome = .ok () ∧
      (reshaper.run network overrides).network = network := by
  obtain ⟨order, horder, -⟩ := hmade.sorted
  have hsorts := hnetwork.sorts horder
  obtain ⟨seeded, hseeded, hcompute⟩ := hmade.outcome_compute overrides hnetwork horder
  have hstart : Kept network seeded [] seeded := ⟨.start hseeded.wellFormed, by simp⟩
  obtain ⟨set, hloop, hkept⟩ := foldlM_total (Kept network seeded) hstart
    fun done id rest set hsplit h => h.step hnetwork hmade hsettles hseeded horder hsplit
  rw [hloop, ok_bind] at hcompute
  have hset : set.For network := hmade.launchers.of_reset hkept.pulled.wellFormed
    (hkept.pulled.reset_eq.trans hseeded.reset_eq)
  have hentry : ∀ entry ∈ order.map fun id => (network.nameOf id, id), ∃ final layer,
      set.get entry.1 = .ok final ∧ network.layers[entry.2]? = some layer ∧
        final.applyChanges layer = .ok layer := by
    intro entry hentry
    obtain ⟨id, hid, rfl⟩ := List.mem_map.1 hentry
    obtain ⟨layer, hlayer⟩ := hsorts.exists_layer hid
    obtain ⟨final, hkeeps⟩ := hkept.keeps hid hlayer
    have hfinalFor := hset.madeFor_layer hnetwork hlayer hkeeps.get_eq
    exact ⟨final, layer, by rw [Network.nameOf_eq hlayer, hkeeps.get_eq], hlayer,
      hkeeps.applyChanges hfinalFor⟩
  have hnodup := (hmade.locates hnetwork horder).nodup_ids hnetwork hmade
  obtain ⟨next, hnext, hwritten⟩ := writeBack_of_writable hnodup fun entry hmem => by
    obtain ⟨final, layer, hget, hlayer, hchanged⟩ := hentry entry hmem
    exact ⟨final, layer, layer, hget, hlayer, hchanged⟩
  have hsame : next = network := by
    refine (eq_iff_of_written hwritten).2 ?_
    rintro entry hmem ⟨final, layer, changed, hget, hlayer, hchanged, hne⟩
    obtain ⟨final', layer', hget', hlayer', hkept'⟩ := hentry entry hmem
    rw [hget, Except.ok.injEq] at hget'
    rw [hlayer, Option.some.injEq] at hlayer'
    subst hget' hlayer'
    rw [hchanged] at hkept'
    exact hne (Except.ok.inj hkept')
  subst hsame
  simp only [run, hcompute, hnext, and_self]

end

end Reshaper

end ShapeFlow
