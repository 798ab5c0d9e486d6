import ShapeFlow.Proofs.Engine.Ending

/-!
The guard of a run. A network is refused for the first layer that it lacks, and if it has them all, for
the first one that has other ports or other producers there. Layers of its own do not matter: a network
that is let through is treated like the one that the reshaper was made for.
-/

namespace ShapeFlow

/-- The layer stands in the other network with other ports, or with another producer at an input. -/
def Layer.Differs (network : Network) (layer : Layer) (other : Network) (found : Layer) : Prop :=
  found.inputs.length ≠ layer.inputs.length ∨
  found.outputs.map Port.name ≠ layer.outputs.map Port.name ∨
  ∃ port < layer.inputs.length,
    other.sourceOf? ⟨found.id, port⟩ ≠ network.sourceOf? ⟨layer.id, port⟩

instance (network : Network) (layer : Layer) (other : Network) (found : Layer) :
    Decidable (layer.Differs network other found) :=
  inferInstanceAs (Decidable (_ ∨ _ ∨ _))

namespace Network

/-- A layer of the name differs in the other network. -/
def DiffersAt (network other : Network) (name : String) : Prop :=
  ∃ layer ∈ network.layers, ∃ found ∈ other.layers,
    layer.name = name ∧ found.name = name ∧ layer.Differs network other found

instance (network other : Network) (name : String) : Decidable (network.DiffersAt other name) :=
  inferInstanceAs (Decidable (∃ layer ∈ network.layers, ∃ found ∈ other.layers, _))

variable {network other : Network} {layer found : Layer}

theorem sourcesOf_eq_iff (hlength : found.inputs.length = layer.inputs.length) :
    other.sourcesOf found = network.sourcesOf layer ↔ ∀ port < layer.inputs.length,
      other.sourceOf? ⟨found.id, port⟩ = network.sourceOf? ⟨layer.id, port⟩ := by
  unfold sourcesOf
  rw [hlength, List.map_inj_left]
  simp only [List.mem_range, sourceOf?]

theorem differsAt_iff (hnetwork : network.WellFormed) (hother : other.WellFormed) {id id' : LayerId}
    (hlayer : network.layers[id]? = some layer) (hfound : other.layers[id']? = some found)
    (hname : found.name = layer.name) :
    network.DiffersAt other layer.name ↔ layer.Differs network other found := by
  constructor
  · rintro ⟨layer', hmem, found', hmem', hname', hfoundName, hdiffers⟩
    have hlayer' := hnetwork.eq_of_name_eq hmem (List.mem_of_getElem? hlayer) hname'
    have hfound' := hother.eq_of_name_eq hmem' (List.mem_of_getElem? hfound)
      (hfoundName.trans hname.symm)
    exact hlayer' ▸ hfound' ▸ hdiffers
  · exact fun hdiffers => ⟨layer, List.mem_of_getElem? hlayer, found, List.mem_of_getElem? hfound,
      rfl, hname, hdiffers⟩

theorem exists_differsAt_iff : (∃ layer ∈ network.layers, network.DiffersAt other layer.name) ↔
    ∃ layer ∈ network.layers, ∃ found ∈ other.layers,
      found.name = layer.name ∧ layer.Differs network other found := by
  constructor
  · rintro ⟨named, -, layer, hmem, found, hfound, hname, hfoundName, hdiffers⟩
    exact ⟨layer, hmem, found, hfound, hfoundName.trans hname.symm, hdiffers⟩
  · rintro ⟨layer, hmem, found, hfound, hname, hdiffers⟩
    exact ⟨layer, hmem, layer, hmem, found, hfound, rfl, hname, hdiffers⟩

end Network

theorem Layer.matches_iff {network other : Network} {layer found : Layer} :
    layer.Matches network other found ↔
      found.name = layer.name ∧ ¬ layer.Differs network other found := by
  unfold Differs
  push Not
  constructor
  · rintro ⟨hname, hinputs, houtputs, hsources⟩
    exact ⟨hname, hinputs, houtputs, (Network.sourcesOf_eq_iff hinputs).1 hsources⟩
  · rintro ⟨hname, hinputs, houtputs, hsources⟩
    exact ⟨hname, hinputs, houtputs, (Network.sourcesOf_eq_iff hinputs).2 hsources⟩

/-- A network is refused for a layer of the name that is not the expected one. -/
def EngineError.mismatch (name : String) : EngineError :=
  .unsupportedModel ("layer '" ++ name ++ "' does not match the network the reshaper was built for")

namespace Launcher

variable {network other : Network} {layer found : Layer} {launcher : Launcher}

theorem checkLayer_cases (hother : other.WellFormed) (launcher : Launcher) (found : Layer) :
    launcher.checkLayer found other = .ok () ∨
      launcher.checkLayer found other = .error (.mismatch launcher.layerName) := by
  simp only [checkLayer, resolveSources_eq hother, EngineError.ofNetwork, ok_bind]
  split
  · split
    · exact .inl rfl
    · exact .inr rfl
  · exact .inr rfl

theorem MadeFor.matches_iff (hother : other.WellFormed) (hmade : launcher.MadeFor network layer) :
    launcher.checkLayer found other = .ok () ↔ layer.Matches network other found := by
  have hlength : (network.sourcesOf layer).length = layer.inputs.length := by
    simp [Network.sourcesOf]
  rw [checkLayer_eq_ok_iff hother, hmade.layerName_eq, hmade.outputNames_eq, hmade.sources_eq,
    hlength]
  constructor
  · rintro ⟨hname, hinputs, houtputs, hsources⟩
    exact ⟨hname, hinputs, houtputs, hsources⟩
  · rintro ⟨hname, hinputs, houtputs, hsources⟩
    exact ⟨hname, hinputs, houtputs, hsources⟩

theorem MadeFor.checkLayer_eq (hother : other.WellFormed) (hmade : launcher.MadeFor network layer)
    (hname : found.name = layer.name) : launcher.checkLayer found other =
      if layer.Differs network other found then .error (.mismatch layer.name) else .ok () := by
  have hok : launcher.checkLayer found other = .ok () ↔ ¬ layer.Differs network other found := by
    rw [hmade.matches_iff hother, Layer.matches_iff, and_iff_right hname]
  split
  · next hdiffers =>
    rcases checkLayer_cases hother launcher found with hchecked | hrefused
    · exact absurd hdiffers (hok.1 hchecked)
    · rw [hrefused, hmade.layerName_eq]
  · next hsame => exact hok.2 hsame

end Launcher

namespace Reshaper

/-- The faults of a network, in the order in which they are looked for. -/
def guardFaults (network other : Network) (names : List String) : List EngineError :=
  (names.filter fun name => name ∉ other.layers.map Layer.name).map .layerNotFound ++
    (names.filter fun name => network.DiffersAt other name).map .mismatch

section

variable {network other : Network} {reshaper : Reshaper} {overrides : Overrides}

private theorem flatMap_faults {α : Type} (faulty : α → Prop) [DecidablePred faulty]
    (fault : α → EngineError) (items : List α) :
    (items.flatMap fun item => if faulty item then [fault item] else []) =
      (items.filter fun item => faulty item).map fault := by
  induction items with
  | nil => rfl
  | cons item rest ih =>
    rw [List.flatMap_cons, ih, List.filter_cons]
    by_cases hfaulty : faulty item <;> simp [hfaulty]

theorem decided_findLayers (hother : other.WellFormed) (names : List String) :
    Decided (fun located => located.map Prod.fst = names ∧
        ∀ entry ∈ located, other.names.get? entry.1 = some entry.2)
      ((names.filter fun name => name ∉ other.layers.map Layer.name).map .layerNotFound)
      (names.mapM fun name => do
        let id ← findLayer other name
        (.ok (name, id) : Except EngineError (String × LayerId))) := by
  have hfind : ∀ name ∈ names,
      Decided (fun entry => entry.1 = name ∧ other.names.get? entry.1 = some entry.2)
        (if name ∉ other.layers.map Layer.name then [.layerNotFound name] else []) (do
          let id ← findLayer other name
          (.ok (name, id) : Except EngineError (String × LayerId))) := by
    intro name _
    unfold findLayer Network.layerId
    cases hid : other.names.get? name with
    | some id =>
      obtain ⟨layer, hlayer, hname⟩ := hother.names_iff.1 hid
      have hmem : name ∈ other.layers.map Layer.name :=
        List.mem_map.2 ⟨layer, List.mem_of_getElem? hlayer, hname⟩
      rw [if_neg (not_not.2 hmem)]
      exact .accepted ⟨rfl, hid⟩
    | none =>
      have habsent : name ∉ other.layers.map Layer.name := by
        intro hmem
        obtain ⟨layer, hmem, hname⟩ := List.mem_map.1 hmem
        obtain ⟨id, hlayer⟩ := List.mem_iff_getElem?.1 hmem
        rw [hother.names_iff.2 ⟨layer, hlayer, hname⟩] at hid
        cases hid
      rw [if_pos habsent]
      exact .refused _ []
  rw [← flatMap_faults]
  apply (Decided.mapM hfind).mono
  intro located hall
  clear hfind
  induction hall with
  | nil => exact ⟨rfl, by simp⟩
  | cons hentry _ ih =>
    obtain ⟨rfl, hid⟩ := hentry
    obtain ⟨hnames, hids⟩ := ih
    exact ⟨by rw [List.map_cons, hnames], List.forall_mem_cons.2 ⟨hid, hids⟩⟩

/-- A network is refused for its first fault. -/
theorem decided_locate (hnetwork : network.WellFormed) (hother : other.WellFormed)
    (hmade : reshaper.MadeFor network) :
    Decided (fun _ => True) (guardFaults network other reshaper.sortedLayers)
      (reshaper.locate other) := by
  apply (decided_findLayers hother reshaper.sortedLayers).bind
  rintro located ⟨hnames, hids⟩
  have hcheck : ∀ entry ∈ located, Decided (fun _ => True)
      (if network.DiffersAt other entry.1 then [.mismatch entry.1] else []) (do
        let launcher ← reshaper.launchers.get entry.1
        let layer ← EngineError.ofNetwork (other.layer entry.2)
        launcher.checkLayer layer other) := by
    rintro ⟨name, id'⟩ hentry
    obtain ⟨found, hfound, hname⟩ := hother.names_iff.1 (hids _ hentry)
    obtain ⟨id, layer, hlayer, rfl⟩ := (hmade.mem_sortedLayers_iff hnetwork).1
      (hnames ▸ List.mem_map_of_mem hentry)
    obtain ⟨launcher, hget⟩ := hmade.launchers.exists_get hlayer
    have hmadeFor := hmade.launchers.madeFor_layer hnetwork hlayer hget
    simp only [hget, ok_bind, Network.layer_eq_ok_iff.2 hfound, EngineError.ofNetwork,
      hmadeFor.checkLayer_eq hother hname,
      Network.differsAt_iff hnetwork hother hlayer hfound hname]
    split
    · exact .refused _ []
    · exact .accepted trivial
  have hchecked := Decided.forM hcheck
  rw [flatMap_faults (fun entry : String × LayerId => network.DiffersAt other entry.1)
    fun entry => .mismatch entry.1] at hchecked
  rw [← hnames, List.filter_map, List.map_map]
  exact hchecked.bind_ok fun _ _ => trivial

theorem head?_guardFaults (names : List String) : (guardFaults network other names).head? =
    ((names.find? fun name => name ∉ other.layers.map Layer.name).map .layerNotFound).or
      ((names.find? fun name => network.DiffersAt other name).map .mismatch) := by
  rw [guardFaults, List.head?_append, List.head?_map, List.head?_map, List.head?_filter,
    List.head?_filter]

theorem guardFaults_eq_nil_iff {names : List String} : guardFaults network other names = [] ↔
    (∀ name ∈ names, name ∈ other.layers.map Layer.name) ∧
      ∀ name ∈ names, ¬ network.DiffersAt other name := by
  simp [guardFaults]

/-- The refusals that do not come from the launchers come from the guard. -/
theorem outcome_run_eq_error_iff (hnetwork : network.WellFormed) (hother : other.WellFormed)
    (hmade : reshaper.MadeFor network) {cause : EngineError} (hcause : ¬ reshaper.Fails cause) :
    (reshaper.run other overrides).journal.outcome = .error cause ↔
      (guardFaults network other reshaper.sortedLayers).head? = some cause := by
  rw [← (decided_locate hnetwork hother hmade).eq_error_iff]
  constructor
  · intro hrefused
    cases hlocate : reshaper.locate other with
    | ok located =>
      exact absurd (fails_of_run hnetwork hother hmade ((locate_eq_ok_iff hother).1 hlocate)
        hrefused) hcause
    | error found =>
      rw [outcome_run overrides hnetwork hother hmade, hlocate, error_bind] at hrefused
      rw [Except.error.inj hrefused]
  · intro hlocate
    rw [outcome_run overrides hnetwork hother hmade, hlocate]
    rfl

theorem not_fails_layerNotFound (name : String) : ¬ reshaper.Fails (.layerNotFound name) := by
  rintro ⟨-, ⟨⟩⟩

theorem not_fails_unsupportedModel (reason : String) :
    ¬ reshaper.Fails (.unsupportedModel reason) := by
  rintro ⟨-, ⟨⟩⟩

/-- A network that the guard refuses stays as it was. -/
theorem network_run_of_not_fails (hnetwork : network.WellFormed) (hother : other.WellFormed)
    (hmade : reshaper.MadeFor network) {cause : EngineError} (hcause : ¬ reshaper.Fails cause)
    (hrefused : (reshaper.run other overrides).journal.outcome = .error cause) :
    (reshaper.run other overrides).network = other := by
  have hfault := (outcome_run_eq_error_iff hnetwork hother hmade hcause).1 hrefused
  have hlocate := (decided_locate hnetwork hother hmade).eq_error_iff.2 hfault
  simp [run, compute, hlocate]

theorem outcome_run_eq_layerNotFound_iff (hnetwork : network.WellFormed) (hother : other.WellFormed)
    (hmade : reshaper.MadeFor network) {name : String} :
    (reshaper.run other overrides).journal.outcome = .error (.layerNotFound name) ↔
      reshaper.sortedLayers.find? (fun name => name ∉ other.layers.map Layer.name) = some name := by
  rw [outcome_run_eq_error_iff hnetwork hother hmade (not_fails_layerNotFound name),
    head?_guardFaults]
  cases reshaper.sortedLayers.find? fun name => name ∉ other.layers.map Layer.name with
  | some first => simp
  | none => simp [EngineError.mismatch]

theorem outcome_run_eq_unsupportedModel_iff (hnetwork : network.WellFormed)
    (hother : other.WellFormed) (hmade : reshaper.MadeFor network)
    (hpresent : ∀ name ∈ reshaper.sortedLayers, name ∈ other.layers.map Layer.name)
    {reason : String} :
    (reshaper.run other overrides).journal.outcome = .error (.unsupportedModel reason) ↔
      ∃ name, reshaper.sortedLayers.find? (fun name => network.DiffersAt other name) = some name ∧
        .mismatch name = EngineError.unsupportedModel reason := by
  have hnone : reshaper.sortedLayers.find? (fun name => name ∉ other.layers.map Layer.name) =
      none := by
    simpa using hpresent
  rw [outcome_run_eq_error_iff hnetwork hother hmade (not_fails_unsupportedModel reason),
    head?_guardFaults, hnone, Option.map_none, Option.none_or, Option.map_eq_some_iff]

/-- A network that lacks no layer is refused for one that differs. -/
theorem exists_unsupportedModel_iff (hnetwork : network.WellFormed) (hother : other.WellFormed)
    (hmade : reshaper.MadeFor network)
    (hpresent : ∀ name ∈ reshaper.sortedLayers, name ∈ other.layers.map Layer.name) :
    (∃ reason, (reshaper.run other overrides).journal.outcome = .error (.unsupportedModel reason)) ↔
      ∃ name ∈ reshaper.sortedLayers, network.DiffersAt other name := by
  simp only [outcome_run_eq_unsupportedModel_iff hnetwork hother hmade hpresent,
    EngineError.mismatch, EngineError.unsupportedModel.injEq]
  rw [exists_comm]
  calc (∃ name reason, reshaper.sortedLayers.find? (fun name => network.DiffersAt other name) =
        some name ∧ "layer '" ++ name ++ "' does not match the network the reshaper was built for" =
          reason)
    _ ↔ ∃ name, reshaper.sortedLayers.find? (fun name => network.DiffersAt other name) =
        some name := by
      simp
    _ ↔ ∃ name ∈ reshaper.sortedLayers, network.DiffersAt other name := by
      rw [← Option.isSome_iff_exists, List.find?_isSome]
      simp only [decide_eq_true_eq]

/-- A network without a fault is treated like the one that the reshaper was made for. -/
theorem outcome_run_of_guardFaults_eq_nil (overrides : Overrides) (hnetwork : network.WellFormed)
    (hother : other.WellFormed) (hmade : reshaper.MadeFor network)
    (hnone : guardFaults network other reshaper.sortedLayers = []) :
    (reshaper.run other overrides).journal.outcome =
      (reshaper.run network overrides).journal.outcome := by
  obtain ⟨located, hlocate, -⟩ := (hnone ▸ decided_locate hnetwork hother hmade).exists_ok
  obtain ⟨order, horder, -⟩ := hmade.sorted
  have hself := (locate_eq_ok_iff hnetwork).2 (hmade.locates hnetwork horder)
  rw [outcome_run overrides hnetwork hother hmade, outcome_run overrides hnetwork hnetwork hmade,
    hlocate, hself, ok_bind, ok_bind]

/-- A run keeps the layers whose names the reshaper does not know. -/
theorem getElem?_run_of_foreign (hnetwork : network.WellFormed) (hother : other.WellFormed)
    (hmade : reshaper.MadeFor network) {id : LayerId} {before : Layer}
    (hbefore : other.layers[id]? = some before)
    (hforeign : before.name ∉ network.layers.map Layer.name) :
    (reshaper.run other overrides).network.layers[id]? = some before := by
  rw [← hbefore]
  unfold run
  dsimp only
  cases hcompute : (reshaper.compute other overrides).outcome with
  | error cause => rfl
  | ok computed =>
    obtain ⟨located, set⟩ := computed
    obtain ⟨hlocated, -⟩ := pulled_of_compute hnetwork hother hmade hcompute
    apply getElem?_writeBack
    intro hid
    obtain ⟨⟨name, id⟩, hentry, rfl⟩ := List.mem_map.1 hid
    obtain ⟨_, layer, -, hlayer, hname, -⟩ := hlocated.found hentry
    obtain ⟨id', expected, hexpected, hexpectedName⟩ := hlocated.exists_layer hnetwork hmade hentry
    rw [hbefore, Option.some.injEq] at hlayer
    rw [hlayer, hname, ← hexpectedName] at hforeign
    exact hforeign (List.mem_map_of_mem (List.mem_of_getElem? hexpected))

theorem MadeFor.exists_mem_sortedLayers_iff (hmade : reshaper.MadeFor network)
    (hnetwork : network.WellFormed) {property : String → Prop} :
    (∃ name ∈ reshaper.sortedLayers, property name) ↔
      ∃ layer ∈ network.layers, property layer.name := by
  constructor
  · rintro ⟨name, hname, hproperty⟩
    obtain ⟨id, layer, hlayer, rfl⟩ := (hmade.mem_sortedLayers_iff hnetwork).1 hname
    exact ⟨layer, List.mem_of_getElem? hlayer, hproperty⟩
  · rintro ⟨layer, hmem, hproperty⟩
    obtain ⟨id, hlayer⟩ := List.mem_iff_getElem?.1 hmem
    exact ⟨layer.name, (hmade.mem_sortedLayers_iff hnetwork).2 ⟨id, layer, hlayer, rfl⟩, hproperty⟩

theorem MadeFor.forall_mem_sortedLayers_iff (hmade : reshaper.MadeFor network)
    (hnetwork : network.WellFormed) {property : String → Prop} :
    (∀ name ∈ reshaper.sortedLayers, property name) ↔
      ∀ layer ∈ network.layers, property layer.name := by
  have hexists : (∃ name ∈ reshaper.sortedLayers, ¬ property name) ↔
      ∃ layer ∈ network.layers, ¬ property layer.name :=
    hmade.exists_mem_sortedLayers_iff hnetwork
  simpa using hexists.not

/-- The guard is exact: a network is refused for the first layer that it lacks, otherwise for a layer
that has other ports or producers there, and neither changes it. Without such a fault the run ends as
on the network that the reshaper was made for; the layers that it does not know stay as they are. -/
theorem run_guard (hnetwork : network.Built) (hreshaper : Of network reshaper) (hother : other.Built)
    (overrides : Overrides) :
    let outcome := (reshaper.run other overrides).journal.outcome
    (∃ order, network.topologicalOrder = .ok order ∧
      ∀ name, outcome = .error (.layerNotFound name) ↔
        (order.map network.nameOf).find? (fun name => name ∉ other.layers.map Layer.name) =
          some name) ∧
    ((∃ name, outcome = .error (.layerNotFound name)) ↔
      ∃ layer ∈ network.layers, layer.name ∉ other.layers.map Layer.name) ∧
    ((∀ layer ∈ network.layers, layer.name ∈ other.layers.map Layer.name) →
      ((∃ reason, outcome = .error (.unsupportedModel reason)) ↔
        ∃ layer ∈ network.layers, ∃ found ∈ other.layers,
          found.name = layer.name ∧ layer.Differs network other found) ∧
      ((∀ layer ∈ network.layers, ∀ found ∈ other.layers,
          found.name = layer.name → ¬ layer.Differs network other found) →
        outcome = (reshaper.run network overrides).journal.outcome)) ∧
    ((∃ name, outcome = .error (.layerNotFound name)) ∨
        (∃ reason, outcome = .error (.unsupportedModel reason)) →
      (reshaper.run other overrides).network = other) ∧
    ∀ (id : LayerId) (before : Layer), other.layers[id]? = some before →
      before.name ∉ network.layers.map Layer.name →
        (reshaper.run other overrides).network.layers[id]? = some before := by
  intro outcome
  have hwell := hnetwork.wellFormed
  have hotherWell := hother.wellFormed
  have hmade := hreshaper.madeFor hwell
  obtain ⟨order, horder, hsorted⟩ := hmade.sorted
  have habsent : ∀ name, outcome = .error (.layerNotFound name) ↔ reshaper.sortedLayers.find?
      (fun name => name ∉ other.layers.map Layer.name) = some name := fun _ =>
    outcome_run_eq_layerNotFound_iff hwell hotherWell hmade
  refine ⟨⟨order, horder, hsorted ▸ habsent⟩, ?_, fun hpresent => ?_, ?_, ?_⟩
  · simp only [habsent, ← Option.isSome_iff_exists, List.find?_isSome, decide_eq_true_eq]
    exact hmade.exists_mem_sortedLayers_iff hwell
  · have hnames := (hmade.forall_mem_sortedLayers_iff hwell).2 hpresent
    refine ⟨?_, fun hsame => ?_⟩
    · exact (exists_unsupportedModel_iff hwell hotherWell hmade hnames).trans
        ((hmade.exists_mem_sortedLayers_iff hwell).trans Network.exists_differsAt_iff)
    · refine outcome_run_of_guardFaults_eq_nil overrides hwell hotherWell hmade
        (guardFaults_eq_nil_iff.2 ⟨hnames, ?_⟩)
      rintro name - ⟨layer, hmem, found, hfound, rfl, hname, hdiffers⟩
      exact hsame layer hmem found hfound hname hdiffers
  · rintro (⟨name, hrefused⟩ | ⟨reason, hrefused⟩)
    · exact network_run_of_not_fails hwell hotherWell hmade (not_fails_layerNotFound name) hrefused
    · exact network_run_of_not_fails hwell hotherWell hmade (not_fails_unsupportedModel reason)
        hrefused
  · intro id before hbefore hforeign
    exact getElem?_run_of_foreign hwell hotherWell hmade hbefore hforeign

end

/-- A network without layers lacks the input of the sample first. -/
theorem sample_run_guard : ∃ reshaper, Of .sample reshaper ∧
    (reshaper.run (.empty "other") Network.sampleRequest).journal.outcome =
      .error (.layerNotFound "data") ∧
    (reshaper.run (.empty "other") Network.sampleRequest).network = .empty "other" := by
  obtain ⟨reshaper, hbuild⟩ := exists_build_sample
  have hreshaper : Of .sample reshaper := .build hbuild
  obtain ⟨⟨order, horder, habsent⟩, -, -, hkept, -⟩ :=
    run_guard Network.built_sample hreshaper (.empty "other") Network.sampleRequest
  have hsorted : Network.sample.topologicalOrder.toOption = some [0, 1] := by decide +kernel
  rw [horder, Except.toOption, Option.some.injEq] at hsorted
  subst hsorted
  have hrefused := (habsent "data").2 (by decide +kernel)
  exact ⟨reshaper, hreshaper, hrefused, hkept (.inl ⟨"data", hrefused⟩)⟩

end Reshaper

end ShapeFlow
