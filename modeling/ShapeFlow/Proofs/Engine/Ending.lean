import ShapeFlow.Proofs.Engine.Atomicity

/-!
How a run ends. The network is asked for its layers and ports at first, and once it matches nothing
more of it matters: the shapes are computed from the launchers and the requests, and the write-back is
refused only where a launcher lacks a shape of its own.
-/

namespace ShapeFlow

namespace Launcher

/-- Whether every output has a shape. A launcher that is passed through need not have any. -/
def complete (launcher : Launcher) : Except EngineError Unit :=
  match launcher.kind with
  | .passThrough => .ok ()
  | _ => do
    let _ ← launcher.outputs
    .ok ()

/-- A launcher of the layer is refused its write-back only for the lack of a shape. -/
theorem applyChanges_complete {launcher : Launcher} {layer : Layer}
    (hname : layer.name = launcher.layerName)
    (hlength : layer.outputs.length = launcher.outShapes.length) :
    (fun _ => ()) <$> launcher.applyChanges layer = launcher.complete := by
  have hfits : ¬ (layer.name ≠ launcher.layerName ∨
      layer.outputs.length ≠ launcher.outShapes.length) := by
    rintro (hne | hne)
    · exact hne hname
    · exact hne hlength
  unfold applyChanges complete outputs
  cases launcher.kind with
  | passThrough => rfl
  | _ =>
    simp only [if_neg hfits]
    cases (List.range launcher.outShapes.length).mapM launcher.outputShape <;> rfl

theorem exists_port_of_complete {launcher : Launcher} {cause : EngineError}
    (h : launcher.complete = .error cause) :
    ∃ port < launcher.outShapes.length, launcher.outputShape port = .error cause := by
  have houtputs : launcher.outputs = .error cause := by
    unfold complete at h
    split at h
    · cases h
    · rcases bind_eq_error_iff.1 h with houtputs | ⟨_, -, hdone⟩
      · exact houtputs
      · cases hdone
  obtain ⟨port, hport, hrefused⟩ := exists_refusal_of_mapM houtputs
  exact ⟨port, List.mem_range.1 hport, hrefused⟩

/-- Why a launcher has no shapes to give: its rule refuses some inputs, or does not give a shape for
every output. -/
inductive Fails (launcher : Launcher) : EngineError → Prop
  | inference {rule : Rule} {inputs : List Shape} {cause : RuleError}
      (hkind : launcher.kind = .ordinary rule)
      (hrule : rule inputs launcher.params launcher.blobs = .error cause) :
      Fails launcher (.inference launcher.layerName cause)
  | shapeCountMismatch {rule : Rule} {inputs outputs : List Shape}
      (hkind : launcher.kind = .ordinary rule)
      (hrule : rule inputs launcher.params launcher.blobs = .ok outputs)
      (hcount : outputs.length ≠ launcher.declaredOutputs.length) :
      Fails launcher (.shapeCountMismatch launcher.layerName launcher.declaredOutputs.length
        outputs.length)

theorem fails_of_reshape {launcher : Launcher} {inputs : List Shape} {cause : EngineError}
    (h : launcher.reshape inputs = .error cause) : launcher.Fails cause := by
  unfold reshape at h
  split at h
  · next rule hkind =>
    split at h
    · next hrule =>
      cases h
      exact .inference hkind hrule
    · next outputs hrule =>
      split at h
      · cases h
      · next hcount =>
        cases h
        exact .shapeCountMismatch hkind hrule hcount
  · cases h
  · cases h

/-- Launchers of one layer with one rule fail alike. -/
theorem Fails.of_reset {a b : Launcher} {cause : EngineError} (h : a.Fails cause)
    (hreset : a.reset = b.reset) : b.Fails cause := by
  obtain ⟨hname, -, hkind, hparams, hblobs, -, -, -, hdeclared, -⟩ := reset_eq_iff.1 hreset
  cases h with
  | inference hordinary hrule =>
    rw [hname]
    exact .inference (hkind ▸ hordinary) (hparams ▸ hblobs ▸ hrule)
  | shapeCountMismatch hordinary hrule hcount =>
    rw [hname, hdeclared]
    exact .shapeCountMismatch (hkind ▸ hordinary) (hparams ▸ hblobs ▸ hrule) (hdeclared ▸ hcount)

end Launcher

namespace Reshaper

/-- The launchers of the input layers get the requested or the declared shapes. -/
def seed (reshaper : Reshaper) (overrides : Overrides) : Except EngineError LauncherSet :=
  reshaper.inputLayers.foldlM (fun set name => do
    let launcher ← set.get name
    .ok (set.insert (launcher.seeded overrides))) reshaper.launchers.reset

/-- The shapes that the launchers compute, without a network. -/
def pull (reshaper : Reshaper) (overrides : Overrides) : Except EngineError LauncherSet := do
  let seeded ← reshaper.seed overrides
  reshaper.sortedLayers.foldlM LauncherSet.reshape seeded

/-- The launcher of an entry can be applied to the layer, if only it has all shapes. -/
def Fits (set : LauncherSet) (network : Network) (entry : String × LayerId) : Prop :=
  ∃ layer, network.layers[entry.2]? = some layer ∧ ∀ launcher, set.get entry.1 = .ok launcher →
    layer.name = launcher.layerName ∧ layer.outputs.length = launcher.outShapes.length

section

variable {network other next : Network} {reshaper : Reshaper} {overrides : Overrides}
  {located : List (String × LayerId)} {entry : String × LayerId} {seeded set : LauncherSet}

theorem Fits.of_skeleton (h : Fits set network entry) (hskeleton : next.skeleton = network.skeleton) :
    Fits set next entry := by
  obtain ⟨layer, hlayer, hfits⟩ := h
  obtain ⟨layer', hlayer', hsame⟩ := Network.exists_layer_of_skeleton hskeleton.symm hlayer
  refine ⟨layer', hlayer', fun launcher hget => ?_⟩
  rw [Layer.name_of_skeleton hsame, Layer.length_outputs_of_skeleton hsame]
  exact hfits launcher hget

theorem writeLayer_complete (h : Fits set network entry) :
    (fun _ => ()) <$> writeLayer set network entry = set.get entry.1 >>= Launcher.complete := by
  obtain ⟨layer, hlayer, hfits⟩ := h
  unfold writeLayer
  cases hget : set.get entry.1 with
  | error cause => rfl
  | ok launcher =>
    obtain ⟨hname, hlength⟩ := hfits launcher hget
    rw [ok_bind, ok_bind, ← Launcher.applyChanges_complete hname hlength]
    simp only [Network.layer_eq_ok_iff.2 hlayer, EngineError.ofNetwork, ok_bind,
      Network.modifyLayer]
    cases launcher.applyChanges layer <;> rfl

theorem outcome_writeBack (h : ∀ entry ∈ located, Fits set network entry) :
    (writeBack set network located).2 =
      located.forM fun entry => set.get entry.1 >>= Launcher.complete := by
  induction located generalizing network with
  | nil => rfl
  | cons entry rest ih =>
    obtain ⟨hentry, hrest⟩ := List.forall_mem_cons.1 h
    rw [List.forM_eq_forM, List.forM_cons, ← writeLayer_complete hentry, writeBack]
    cases hwrite : writeLayer set network entry with
    | error cause => rfl
    | ok middle => exact ih fun other hother => (hrest other hother).of_skeleton (skeleton_writeLayer hwrite)

/-- The seeding does as if there were no network. -/
theorem exists_seed (overrides : Overrides) (hnetwork : network.WellFormed)
    (hother : other.WellFormed) (hmade : reshaper.MadeFor network)
    (hlocated : Located reshaper other located) :
    ∃ seeded, reshaper.seed overrides = .ok seeded ∧
      (reshaper.inputLayers.foldlM (seedLayer other overrides) reshaper.launchers.reset).outcome =
        .ok seeded ∧ Seeded reshaper overrides reshaper.inputLayers seeded := by
  obtain ⟨seeded, hseeding, hseeded⟩ := exists_seeded overrides hnetwork hother hmade hlocated
  refine ⟨seeded, ?_, hseeding, hseeded⟩
  rw [← hseeding, Journal.outcome_foldlM, seed]
  apply foldlM_congr (Seeded reshaper overrides) (.start hmade.launchers.wellFormed)
  intro done name rest set hinputs hset
  obtain ⟨launcher, hget, hstep, hnext⟩ := hset.step hnetwork hother hmade hlocated hinputs
  rw [hget, ok_bind, hstep]
  refine ⟨rfl, fun next heq => ?_⟩
  cases heq
  exact hnext

/-- A network that matches does not matter for the shapes. -/
theorem outcome_compute_of_located (overrides : Overrides) (hnetwork : network.WellFormed)
    (hother : other.WellFormed) (hmade : reshaper.MadeFor network)
    (hlocated : Located reshaper other located) :
    (reshaper.compute other overrides).outcome = (located, ·) <$> reshaper.pull overrides := by
  obtain ⟨seeded, hseed, hseeding, hseeded⟩ :=
    exists_seed overrides hnetwork hother hmade hlocated
  have hloop : (located.foldlM (step other) seeded).outcome =
      reshaper.sortedLayers.foldlM LauncherSet.reshape seeded := by
    rw [Journal.outcome_foldlM, ← hlocated.names, List.foldlM_map]
    apply foldlM_congr (fun done set => Pulled seeded (done.map Prod.fst) set)
      (.start hseeded.wellFormed)
    intro done entry rest set hitems hset
    obtain ⟨_, layer, -, hlayer, -⟩ := hlocated.found (by simp [hitems] : (entry.1, entry.2) ∈ located)
    have hsorted : reshaper.sortedLayers =
        done.map Prod.fst ++ entry.1 :: rest.map Prod.fst := by
      simp [← hlocated.names, hitems]
    refine ⟨outcome_step hset.wellFormed hlayer, fun next hnext => ?_⟩
    rw [List.map_append]
    exact hset.step hnetwork hmade hseeded.reset_eq hsorted hnext
  simp only [compute, pull, Journal.outcome_bind, Journal.outcome_lift, Journal.outcome_pure,
    (locate_eq_ok_iff hother).2 hlocated, hseeding, hseed, hloop, ok_bind]
  cases reshaper.sortedLayers.foldlM LauncherSet.reshape seeded <;> rfl

theorem fits_of_located (hnetwork : network.WellFormed) (hother : other.WellFormed)
    (hmade : reshaper.MadeFor network) (hlocated : Located reshaper other located)
    (hset : set.For network) (hentry : entry ∈ located) : Fits set other entry := by
  obtain ⟨name, id'⟩ := entry
  obtain ⟨id, layer, hlayer, rfl⟩ := hlocated.exists_layer hnetwork hmade hentry
  obtain ⟨found, hfound, hmatches⟩ :=
    hlocated.matches_of_mem hnetwork hother hmade hlayer hentry
  refine ⟨found, hfound, fun launcher hget => ?_⟩
  have hmadeFor := hset.madeFor_layer hnetwork hlayer hget
  refine ⟨hmatches.name_eq.trans hmadeFor.layerName_eq.symm, ?_⟩
  rw [hmadeFor.length_outShapes]
  simpa using congrArg List.length hmatches.names_outputs

/-- A run ends with the first difference of the network from the one the reshaper was made for, with
the first launcher that has no shapes to give, or with the first one that lacks one of them. -/
theorem outcome_run (overrides : Overrides) (hnetwork : network.WellFormed)
    (hother : other.WellFormed) (hmade : reshaper.MadeFor network) :
    (reshaper.run other overrides).journal.outcome = (do
      let _ ← reshaper.locate other
      let set ← reshaper.pull overrides
      reshaper.sortedLayers.forM fun name => set.get name >>= Launcher.complete) := by
  cases hlocate : reshaper.locate other with
  | error cause => simp [run, compute, hlocate]
  | ok located =>
    have hlocated := (locate_eq_ok_iff hother).1 hlocate
    have hcompute := outcome_compute_of_located overrides hnetwork hother hmade hlocated
    rw [ok_bind]
    cases hpull : reshaper.pull overrides with
    | error cause =>
      rw [hpull] at hcompute
      simp only [run, hcompute]
      rfl
    | ok set =>
      rw [hpull, map_ok] at hcompute
      obtain ⟨-, seeded, hseeded, hpulled⟩ := pulled_of_compute hnetwork hother hmade hcompute
      have hset : set.For network := hmade.launchers.of_reset hpulled.wellFormed
        (hpulled.reset_eq.trans hseeded.reset_eq)
      have hwrite : (writeBack set other located).2 =
          located.forM fun entry => set.get entry.1 >>= Launcher.complete :=
        outcome_writeBack fun _ => fits_of_located hnetwork hother hmade hlocated hset
      simp only [run, hcompute, hwrite, ok_bind, ← hlocated.names, List.forM_eq_forM, List.forM_map]

/-! ### What a matching network is refused for -/

theorem outputShape_eq_error {final : Launcher} {port : Nat} {cause : EngineError}
    (hport : port < final.declaredOutputs.length) (h : final.outputShape port = .error cause) :
    cause = .shapeNotComputed final.layerName port := by
  unfold Launcher.outputShape at h
  rw [List.getElem?_eq_getElem hport] at h
  dsimp only at h
  split at h <;> cases h <;> rfl

/-- The launchers either fail, or one of them is ambiguous and has no shape for one of its outputs. -/
inductive Fails (reshaper : Reshaper) : EngineError → Prop
  | launcher {name : String} {launcher : Launcher} {cause : EngineError}
      (hget : reshaper.launcher name = .ok launcher) (h : launcher.Fails cause) : Fails reshaper cause
  | ambiguous {name : String} {port : Nat} (h : reshaper.AmbiguousAt name) :
      Fails reshaper (.shapeNotComputed name port)

variable {id : LayerId} {layer : Layer} {launcher : Launcher} {cause : EngineError}

/-- An output that has no shape at the end is one of an ambiguous launcher. -/
theorem Final.fails {final : Launcher} {inputs : List Shape}
    (h : Final overrides set layer launcher final inputs) (hmadeFor : launcher.MadeFor network layer)
    (hget : reshaper.launchers.get layer.name = .ok launcher) {port : Nat}
    (hport : port < layer.outputs.length) (hrefused : final.outputShape port = .error cause) :
    reshaper.Fails cause := by
  have hfinalFor := hmadeFor.of_reset h.reset_eq
  have hcause := outputShape_eq_error (hfinalFor.length_declaredOutputs ▸ hport) hrefused
  rw [hcause, hfinalFor.layerName_eq]
  refine .ambiguous ⟨launcher, hget, ?_⟩
  by_contra hunambiguous
  obtain ⟨shapes, hshapes⟩ := (h.exists_outputs_iff hmadeFor).2 hunambiguous
  obtain ⟨hcount, hall⟩ := Launcher.outputs_eq_ok_iff.1 hshapes
  have hshape := hall port (by rwa [hcount, hfinalFor.length_outShapes])
  rw [hrefused] at hshape
  cases hshape

/-- A step of the loop fails at the rule of the layer, or at an output of an earlier layer. -/
theorem Pulled.fails (hnetwork : network.WellFormed) (hmade : reshaper.MadeFor network)
    (hseeded : Seeded reshaper overrides reshaper.inputLayers seeded) {done rest : List String}
    {name : String} (hsorted : reshaper.sortedLayers = done ++ name :: rest)
    (h : Pulled seeded done set) (hrefused : set.reshape name = .error cause) :
    reshaper.Fails cause := by
  obtain ⟨id, layer, hlayer, rfl⟩ : ∃ (id : LayerId) (layer : Layer),
      network.layers[id]? = some layer ∧ layer.name = name :=
    (hmade.mem_sortedLayers_iff hnetwork).1 (by simp [hsorted])
  obtain ⟨launcher, hget⟩ := hmade.launchers.exists_get hlayer
  have hmadeFor := hmade.launchers.madeFor_layer hnetwork hlayer hget
  have hreset := reset_start overrides hmadeFor reshaper.inputLayers
  have hstart : set.get layer.name = .ok (startLauncher reshaper.inputLayers overrides launcher) := by
    rw [h.pending (hmade.not_mem_done hnetwork hsorted), hseeded.get_eq hget]
  rw [LauncherSet.reshape, hstart, ok_bind, bind_eq_error_iff] at hrefused
  rcases hrefused with hinputs | ⟨inputs, -, hrefused⟩
  · rw [Launcher.inputShapes_eq] at hinputs
    obtain ⟨⟨_ | source, declared⟩, hmem, hread⟩ := exists_refusal_of_mapM hinputs
    · cases hread
    · have hsource := (List.of_mem_zip hmem).1
      rw [(hmadeFor.of_reset hreset).sources_eq] at hsource
      have hdone := source_mem_of_sorted hnetwork hmade hsorted hlayer rfl hsource
      obtain ⟨port, -, producer, hproducer, rfl⟩ := mem_sourcesOf_iff.1 hsource
      obtain ⟨feeding, hfeeding, hport⟩ :=
        hnetwork.source_exists _ (hnetwork.producers_iff.1 hproducer)
      dsimp only [Launcher.inputShape] at hdone hread
      rw [Network.nameOf_eq hfeeding] at hdone hread
      obtain ⟨feedingLauncher, hfeedingGet⟩ := hmade.launchers.exists_get hfeeding
      obtain ⟨final, _, hfinal⟩ :=
        exists_final_of_mem hnetwork hmade hseeded h hfeeding hfeedingGet hdone
      rw [hfinal.get_eq, ok_bind] at hread
      exact hfinal.fails (hmade.launchers.madeFor_layer hnetwork hfeeding hfeedingGet) hfeedingGet
        hport hread
  · rcases bind_eq_error_iff.1 hrefused with hrule | ⟨reshaped, -, hinsert⟩
    · exact .launcher hget ((Launcher.fails_of_reshape hrule).of_reset hreset)
    · cases hinsert

theorem fails_of_pull (hnetwork : network.WellFormed) (hmade : reshaper.MadeFor network)
    (h : reshaper.pull overrides = .error cause) : reshaper.Fails cause := by
  obtain ⟨order, horder, -⟩ := hmade.sorted
  obtain ⟨seeded, hseed, -, hseeded⟩ :=
    exists_seed overrides hnetwork hnetwork hmade (hmade.locates hnetwork horder)
  rw [pull, hseed, ok_bind] at h
  obtain ⟨done, name, rest, set, hsorted, hpulled, hrefused⟩ :=
    exists_refusal_of_foldlM_invariant (Pulled seeded) (.start hseeded.wellFormed)
      (fun _ _ _ _ _ hsorted hset hnext =>
        hset.step hnetwork hmade hseeded.reset_eq hsorted hnext) h
  exact hpulled.fails hnetwork hmade hseeded hsorted hrefused

theorem fails_of_complete (hnetwork : network.WellFormed) (hmade : reshaper.MadeFor network)
    (hseeded : Seeded reshaper overrides reshaper.inputLayers seeded)
    (hpulled : Pulled seeded reshaper.sortedLayers set)
    (h : (reshaper.sortedLayers.forM fun name => set.get name >>= Launcher.complete) =
      .error cause) : reshaper.Fails cause := by
  obtain ⟨name, hname, hrefused⟩ := exists_refusal_of_forM h
  obtain ⟨id, layer, hlayer, rfl⟩ := (hmade.mem_sortedLayers_iff hnetwork).1 hname
  obtain ⟨launcher, hget⟩ := hmade.launchers.exists_get hlayer
  have hmadeFor := hmade.launchers.madeFor_layer hnetwork hlayer hget
  obtain ⟨final, _, hfinal⟩ := exists_final hnetwork hmade hseeded hpulled hlayer hget
  rw [hfinal.get_eq, ok_bind] at hrefused
  obtain ⟨port, hport, houtput⟩ := Launcher.exists_port_of_complete hrefused
  rw [(hmadeFor.of_reset hfinal.reset_eq).length_outShapes] at hport
  exact hfinal.fails hmadeFor hget hport houtput

/-- A run on a network that matches is refused only where the launchers fail. -/
theorem fails_of_run (hnetwork : network.WellFormed) (hother : other.WellFormed)
    (hmade : reshaper.MadeFor network) (hlocated : Located reshaper other located)
    (h : (reshaper.run other overrides).journal.outcome = .error cause) : reshaper.Fails cause := by
  rw [outcome_run overrides hnetwork hother hmade, (locate_eq_ok_iff hother).2 hlocated, ok_bind,
    bind_eq_error_iff] at h
  rcases h with hpull | ⟨set, hset, hcomplete⟩
  · exact fails_of_pull hnetwork hmade hpull
  · obtain ⟨-, seeded, hseeded, hpulled⟩ := pulled_of_compute hnetwork hother hmade
      (by rw [outcome_compute_of_located overrides hnetwork hother hmade hlocated, hset, map_ok])
    exact fails_of_complete hnetwork hmade hseeded hpulled hcomplete

end

end Reshaper

end ShapeFlow
