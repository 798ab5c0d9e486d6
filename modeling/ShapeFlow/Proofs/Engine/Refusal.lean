import ShapeFlow.Proofs.Engine.Guard

/-!
What a run can be refused for. Every layer has its launcher, producers come before their consumers, and
the ports that are read and written exist; so a run fails at the guard, or at the rule of a layer. Only
an input layer with two outputs of one name is left without a shape.
-/

namespace ShapeFlow.Reshaper

/-- Why a run is refused: the network lacks a layer or has a different one in its place, or the rule of
a layer refuses its inputs or does not give a shape for every output. -/
inductive Refusal (network : Network) (reshaper : Reshaper) (other : Network) : EngineError → Prop
  | layerNotFound {layer : Layer} (hlayer : layer ∈ network.layers)
      (habsent : layer.name ∉ other.layers.map Layer.name) :
      Refusal network reshaper other (.layerNotFound layer.name)
  | unsupportedModel {layer found : Layer} (hlayer : layer ∈ network.layers)
      (hfound : found ∈ other.layers) (hname : found.name = layer.name)
      (hdiffers : layer.Differs network other found) :
      Refusal network reshaper other (.unsupportedModel ("layer '" ++ layer.name ++
        "' does not match the network the reshaper was built for"))
  | inference {name : String} {launcher : Launcher} {rule : Rule} {inputs : List Shape}
      {cause : RuleError} (hget : reshaper.launcher name = .ok launcher)
      (hkind : launcher.kind = .ordinary rule)
      (hrule : rule inputs launcher.params launcher.blobs = .error cause) :
      Refusal network reshaper other (.inference name cause)
  | shapeCountMismatch {name : String} {launcher : Launcher} {rule : Rule}
      {inputs outputs : List Shape} (hget : reshaper.launcher name = .ok launcher)
      (hkind : launcher.kind = .ordinary rule)
      (hrule : rule inputs launcher.params launcher.blobs = .ok outputs)
      (hcount : outputs.length ≠ launcher.declaredOutputs.length) :
      Refusal network reshaper other (.shapeCountMismatch name launcher.declaredOutputs.length
        outputs.length)

section

variable {network other : Network} {reshaper : Reshaper} {overrides : Overrides}
  {cause : EngineError}

theorem refusal_of_locate (hnetwork : network.WellFormed) (hother : other.WellFormed)
    (hmade : reshaper.MadeFor network) (h : reshaper.locate other = .error cause) :
    Refusal network reshaper other cause := by
  have hfault : cause ∈ guardFaults network other reshaper.sortedLayers :=
    List.mem_of_mem_head? ((decided_locate hnetwork hother hmade).eq_error_iff.1 h)
  rcases List.mem_append.1 hfault with hfault | hfault
  · obtain ⟨name, hname, rfl⟩ := List.mem_map.1 hfault
    obtain ⟨hsorted, habsent⟩ := List.mem_filter.1 hname
    obtain ⟨id, layer, hlayer, rfl⟩ := (hmade.mem_sortedLayers_iff hnetwork).1 hsorted
    exact .layerNotFound (List.mem_of_getElem? hlayer) (of_decide_eq_true habsent)
  · obtain ⟨name, hname, rfl⟩ := List.mem_map.1 hfault
    obtain ⟨layer, hlayer, found, hfound, rfl, hname, hdiffers⟩ :=
      of_decide_eq_true (List.mem_filter.1 hname).2
    exact .unsupportedModel hlayer hfound hname hdiffers

/-- Without an ambiguous input layer, the rules are all that can fail. -/
theorem Fails.refusal (hmade : reshaper.MadeFor network)
    (hunambiguous : ∀ name, ¬ reshaper.AmbiguousAt name) (h : reshaper.Fails cause) :
    Refusal network reshaper other cause := by
  cases h with
  | ambiguous hambiguous => exact absurd hambiguous (hunambiguous _)
  | launcher hget hfails =>
    have hname := hmade.launchers.wellFormed.layerName_eq hget
    cases hfails with
    | inference hkind hrule => exact hname ▸ .inference hget hkind hrule
    | shapeCountMismatch hkind hrule hcount =>
      exact hname ▸ .shapeCountMismatch hget hkind hrule hcount

theorem not_ambiguousAt (hmade : reshaper.MadeFor network)
    (hunambiguous : ∀ layer ∈ network.layers, ∀ launcher,
      reshaper.launcher layer.name = .ok launcher → launcher.kind = .input → layer.Unambiguous)
    (name : String) : ¬ reshaper.AmbiguousAt name := by
  rintro ⟨launcher, hget, hkind, hambiguous⟩
  obtain ⟨id, layer, hlayer, rfl, hmadeFor⟩ := hmade.launchers.madeFor hget
  rw [hmadeFor.outputNames_eq] at hambiguous
  exact hambiguous (hunambiguous layer (List.mem_of_getElem? hlayer) launcher hget hkind)

/-- If no layer with an input launcher has two outputs of one name, a run is refused for one of these
reasons only and then leaves the network as it was: nothing is refused any more once the shapes are
computed. Extensions take input launchers away and make none, so only those that are left count. -/
theorem run_refusal (hnetwork : network.Built) (hreshaper : Of network reshaper)
    (hother : other.Built)
    (hunambiguous : ∀ layer ∈ network.layers, ∀ launcher,
      reshaper.launcher layer.name = .ok launcher → launcher.kind = .input → layer.Unambiguous)
    (overrides : Overrides) :
    (∀ cause, (reshaper.run other overrides).journal.outcome = .error cause →
      Refusal network reshaper other cause ∧ (reshaper.run other overrides).network = other) ∧
    ∀ located set, (reshaper.compute other overrides).outcome = .ok (located, set) →
      ∃ next, writeBack set other located = (next, .ok ()) := by
  have hmade := hreshaper.madeFor hnetwork.wellFormed
  have hnone := not_ambiguousAt hmade hunambiguous
  have hwritten : ∀ located set, (reshaper.compute other overrides).outcome = .ok (located, set) →
      ∃ next, writeBack set other located = (next, .ok ()) := by
    intro located set hcompute
    obtain ⟨hlocated, seeded, hseeded, hpulled⟩ :=
      pulled_of_compute hnetwork.wellFormed hother.wellFormed hmade hcompute
    obtain ⟨next, hnext, -⟩ := writeBack_of_writable
      (hlocated.nodup_ids hnetwork.wellFormed hmade) fun entry hentry =>
        writable_of_located hnetwork.wellFormed hother.wellFormed hmade hlocated hseeded hpulled
          hentry (hnone entry.1)
    exact ⟨next, hnext⟩
  refine ⟨fun cause hrefused => ⟨?_, ?_⟩, hwritten⟩
  · cases hlocate : reshaper.locate other with
    | error found =>
      rw [outcome_run overrides hnetwork.wellFormed hother.wellFormed hmade, hlocate,
        error_bind] at hrefused
      rw [← Except.error.inj hrefused]
      exact refusal_of_locate hnetwork.wellFormed hother.wellFormed hmade hlocate
    | ok located =>
      have hlocated := (locate_eq_ok_iff hother.wellFormed).1 hlocate
      exact (fails_of_run hnetwork.wellFormed hother.wellFormed hmade hlocated
        hrefused).refusal hmade hnone
  · cases hcompute : (reshaper.compute other overrides).outcome with
    | error found => simp [run, hcompute]
    | ok computed =>
      obtain ⟨located, set⟩ := computed
      obtain ⟨next, hnext⟩ := hwritten located set hcompute
      simp [run, hcompute, hnext] at hrefused

end

theorem sample_run_refusal : ∃ reshaper, Of .sample reshaper ∧
    (∀ cause, (reshaper.run .sample Network.sampleRequest).journal.outcome = .error cause →
      Refusal .sample reshaper .sample cause ∧
        (reshaper.run .sample Network.sampleRequest).network = .sample) ∧
    ∀ located set, (reshaper.compute .sample Network.sampleRequest).outcome = .ok (located, set) →
      ∃ next, writeBack set .sample located = (next, .ok ()) := by
  obtain ⟨reshaper, hbuild⟩ := exists_build_sample
  have hreshaper : Of .sample reshaper := .build hbuild
  have hnames : ∀ layer ∈ Network.sample.layers, (layer.outputs.map Port.name).Nodup := by
    decide +kernel
  exact ⟨reshaper, hreshaper, run_refusal Network.built_sample hreshaper Network.built_sample
    (fun layer hlayer _ _ _ => hnames layer hlayer) Network.sampleRequest⟩

end ShapeFlow.Reshaper
