import ShapeFlow.Proofs.Engine.Seeding

/-!
The loop of a run. Each layer reads the outputs of its producers, which are final by then, so that at
the end every launcher is what a reshape makes of the launcher it started with and of the inputs that
the finished set gives it.
-/

namespace ShapeFlow

/-! ### Reading inputs -/

namespace Launcher

def inputShape (set : LauncherSet) : Option Source × Shape → Except EngineError Shape
  | (none, declared) => .ok declared
  | (some source, _) => set.get source.layer >>= fun feeding => feeding.outputShape source.port

theorem inputShapes_eq (launcher : Launcher) (set : LauncherSet) :
    launcher.inputShapes set =
      (launcher.sources.zip launcher.declaredInputs).mapM (inputShape set) := by
  rw [inputShapes]
  apply mapM_congr
  rintro ⟨_ | source, declared⟩ - <;> rfl

/-- The shape is the one declared for an input, or that of the output that feeds the input. -/
def Reads (network : Network) (set : LauncherSet) (declared shape : Shape) : Option PortRef → Prop
  | none => shape = declared
  | some producer => ∃ feeding, set.get (network.nameOf producer.layer) = .ok feeding ∧
      feeding.outputShape producer.port = .ok shape

theorem MadeFor.inputShapes_eq_ok_iff {network : Network} {layer : Layer} {launcher : Launcher}
    (h : launcher.MadeFor network layer) {set : LauncherSet} {inputs : List Shape} :
    launcher.inputShapes set = .ok inputs ↔ inputs.length = layer.inputs.length ∧
      ∀ (port : Nat) (declared shape : Shape), layer.inputShapes[port]? = some declared →
        inputs[port]? = some shape →
          Reads network set declared shape (network.producerOf? ⟨layer.id, port⟩) := by
  have hlength : (launcher.sources.zip launcher.declaredInputs).length = layer.inputs.length := by
    simp [h.sources_eq, Network.sourcesOf, h.declaredInputs_eq, Layer.inputShapes]
  have hsource : ∀ (port : Nat) (declared : Shape), layer.inputShapes[port]? = some declared →
      launcher.sources[port]? = some ((network.producerOf? ⟨layer.id, port⟩).map fun producer =>
        ⟨network.nameOf producer.layer, producer.port⟩) := by
    intro port declared hdeclared
    have hport : port < layer.inputs.length := by
      simpa [Layer.inputShapes] using (List.getElem?_eq_some_iff.1 hdeclared).1
    rw [h.sources_eq, Network.sourcesOf, List.getElem?_map, List.getElem?_range hport,
      Option.map_some]
  have hread : ∀ (port : Nat) (declared shape : Shape),
      inputShape set ((network.producerOf? ⟨layer.id, port⟩).map fun producer =>
        ⟨network.nameOf producer.layer, producer.port⟩, declared) = .ok shape ↔
      Reads network set declared shape (network.producerOf? ⟨layer.id, port⟩) := by
    intro port declared shape
    cases network.producerOf? ⟨layer.id, port⟩ with
    | none => simp [inputShape, Reads, eq_comm]
    | some producer => simp only [Option.map_some, inputShape, bind_eq_ok_iff, Reads]
  rw [inputShapes_eq, mapM_eq_ok_iff_getElem?, hlength]
  refine and_congr_right fun _ => ⟨fun hall port declared shape hdeclared hshape => ?_,
    fun hall port pair shape hpair hshape => ?_⟩
  · exact (hread port declared shape).1 (hall port _ shape (List.getElem?_zip_eq_some.2
      ⟨hsource port declared hdeclared, h.declaredInputs_eq ▸ hdeclared⟩) hshape)
  · obtain ⟨source, declared⟩ := pair
    obtain ⟨hfound, hdeclared⟩ := List.getElem?_zip_eq_some.1 hpair
    rw [h.declaredInputs_eq] at hdeclared
    rw [hsource port declared hdeclared] at hfound
    cases hfound
    exact (hread port declared shape).2 (hall port declared shape hdeclared hshape)

theorem inputShapes_congr {launcher : Launcher} {a b : LauncherSet}
    (h : ∀ source : Source, some source ∈ launcher.sources → a.get source.layer = b.get source.layer) :
    launcher.inputShapes a = launcher.inputShapes b := by
  rw [inputShapes_eq, inputShapes_eq]
  apply mapM_congr
  rintro ⟨_ | source, declared⟩ hmem
  · rfl
  · simp only [inputShape, h source (List.of_mem_zip hmem).1]

end Launcher

namespace Reshaper

/-! ### The loop -/

/-- The set once the layers listed are done. -/
structure Pulled (seeded : LauncherSet) (done : List String) (set : LauncherSet) : Prop where
  wellFormed : set.WellFormed
  reset_eq : set.reset = seeded.reset
  pending : ∀ {name : String}, name ∉ done → set.get name = seeded.get name
  computed : ∀ {name : String}, name ∈ done → ∃ start inputs final,
    seeded.get name = .ok start ∧ start.inputShapes set = .ok inputs ∧
      start.reshape inputs = .ok final ∧ set.get name = .ok final

theorem Pulled.start {seeded : LauncherSet} (h : seeded.WellFormed) : Pulled seeded [] seeded :=
  ⟨h, rfl, fun _ => rfl, by simp⟩

theorem Pulled.insert {seeded set : LauncherSet} {done : List String} {name : String}
    (h : Pulled seeded done set) (hfresh : name ∉ done)
    (hclosed : ∀ {other launcher}, other ∈ done ++ [name] → seeded.get other = .ok launcher →
      ∀ source : Source, some source ∈ launcher.sources → source.layer ∈ done)
    (hlength : ∀ {launcher}, seeded.get name = .ok launcher →
      launcher.outShapes.length = launcher.declaredOutputs.length)
    {start final : Launcher} {inputs : List Shape} (hget : set.get name = .ok start)
    (hinputs : start.inputShapes set = .ok inputs) (hfinal : start.reshape inputs = .ok final) :
    Pulled seeded (done ++ [name]) (set.insert final) := by
  have hstart : seeded.get name = .ok start := by rw [← h.pending hfresh, hget]
  have hreset : final.reset = start.reset :=
    Launcher.reset_of_reshape (hlength hstart) hfinal
  have hname : final.layerName = name := by
    rw [Launcher.layerName_of_reset hreset, h.wellFormed.layerName_eq hget]
  -- what is done already reads none of the new shapes
  have hread : ∀ {other launcher}, other ∈ done ++ [name] → seeded.get other = .ok launcher →
      launcher.inputShapes (set.insert final) = launcher.inputShapes set := by
    intro other launcher hother hlauncher
    refine Launcher.inputShapes_congr fun source hsource => ?_
    have hdone := hclosed hother hlauncher source hsource
    have hne : source.layer ≠ final.layerName := by
      rw [hname]
      exact fun heq => hfresh (heq ▸ hdone)
    rw [h.wellFormed.get_insert, if_neg hne]
  refine ⟨h.wellFormed.insert final, ?_, ?_, ?_⟩
  · rw [LauncherSet.reset_insert (hname ▸ hget) hreset, h.reset_eq]
  · intro other hother
    rw [List.mem_append, List.mem_singleton, not_or] at hother
    rw [h.wellFormed.get_insert, hname, if_neg hother.2, h.pending hother.1]
  · intro other hother
    by_cases heq : other = name
    · subst heq
      refine ⟨start, inputs, final, hstart, ?_, hfinal, ?_⟩
      · rw [hread hother hstart, hinputs]
      · rw [h.wellFormed.get_insert, if_pos hname.symm]
    · have hdone : other ∈ done := by simpa [heq] using hother
      obtain ⟨start', inputs', final', hstart', hinputs', hfinal', hget'⟩ := h.computed hdone
      refine ⟨start', inputs', final', hstart', ?_, hfinal', ?_⟩
      · rw [hread hother hstart', hinputs']
      · rw [h.wellFormed.get_insert, hname, if_neg heq, hget']

section

variable {network other : Network} {reshaper : Reshaper} {located : List (String × LayerId)}
  {overrides : Overrides} {seeded set : LauncherSet}

/-- The producers of a layer come before it. -/
theorem source_mem_of_sorted (hnetwork : network.WellFormed) (hmade : reshaper.MadeFor network)
    {done rest : List String} {name : String}
    (hsorted : reshaper.sortedLayers = done ++ name :: rest) {id : LayerId} {layer : Layer}
    (hlayer : network.layers[id]? = some layer) (hname : layer.name = name) {source : Source}
    (hsource : some source ∈ network.sourcesOf layer) : source.layer ∈ done := by
  obtain ⟨order, horder, hnames⟩ := hmade.sorted
  have hsorts := hnetwork.sorts horder
  rw [hnames] at hsorted
  obtain ⟨first, last, hsplit, rfl, hlast⟩ := List.map_eq_append_iff.1 hsorted
  obtain ⟨id', second, rfl, hid', -⟩ := List.map_eq_cons_iff.1 hlast
  have hlt : id' < network.layers.length := hsorts.mem_iff.1 (by simp [hsplit])
  have heq : id' = id := by
    refine hnetwork.nameOf_inj hlt (List.getElem?_eq_some_iff.1 hlayer).1 ?_
    rw [hid', Network.nameOf_eq hlayer, hname]
  subst heq
  obtain ⟨port, -, producer, hproducer, rfl⟩ := mem_sourcesOf_iff.1 hsource
  have hconnection := hnetwork.producers_iff.1 hproducer
  exact List.mem_map_of_mem (hsorts.source_mem hsplit _ hconnection (hnetwork.id_eq hlayer))

/-- What the launchers done so far read is done before them. -/
theorem sources_closed (hnetwork : network.WellFormed) (hmade : reshaper.MadeFor network)
    (hreset : set.reset = reshaper.launchers.reset) {done rest : List String} {name : String}
    (hsorted : reshaper.sortedLayers = done ++ name :: rest) {name' : String} {launcher : Launcher}
    (hmem : name' ∈ done ++ [name]) (hget : set.get name' = .ok launcher) {source : Source}
    (hsource : some source ∈ launcher.sources) : source.layer ∈ done := by
  obtain ⟨launcher', hget', heq⟩ := LauncherSet.exists_get_of_reset hreset hget
  obtain ⟨id, layer, hlayer, hname, hmadeFor⟩ := hmade.launchers.madeFor hget'
  rw [(hmadeFor.of_reset heq.symm).sources_eq] at hsource
  rw [List.mem_append, List.mem_singleton] at hmem
  rcases hmem with hdone | rfl
  · obtain ⟨first, second, rfl⟩ := List.append_of_mem hdone
    have hsplit : reshaper.sortedLayers = first ++ name' :: (second ++ name :: rest) := by
      simp [hsorted]
    exact List.mem_append_left _ (source_mem_of_sorted hnetwork hmade hsplit hlayer hname hsource)
  · exact source_mem_of_sorted hnetwork hmade hsorted hlayer hname hsource

theorem outcome_step {entry : String × LayerId} {layer : Layer} (hset : set.WellFormed)
    (hlayer : other.layers[entry.2]? = some layer) :
    (step other set entry).outcome = set.reshape entry.1 := by
  simp only [step, Journal.outcome_bind, Journal.outcome_lift, Journal.outcome_note,
    Journal.outcome_pure, Network.layer_eq_ok_iff.2 hlayer, EngineError.ofNetwork, ok_bind]
  cases hreshape : set.reshape entry.1 with
  | error cause => rfl
  | ok next =>
    obtain ⟨launcher, inputs, final, hget, -, hfinal, rfl⟩ :=
      LauncherSet.reshape_eq_ok_iff.1 hreshape
    have hname : final.layerName = entry.1 :=
      (Launcher.layerName_of_reshape hfinal).trans (hset.layerName_eq hget)
    rw [ok_bind, hset.get_insert, if_pos hname.symm, ok_bind]

theorem Pulled.step (hnetwork : network.WellFormed) (hmade : reshaper.MadeFor network)
    (hseeded : seeded.reset = reshaper.launchers.reset) {done rest : List String} {name : String}
    (hsorted : reshaper.sortedLayers = done ++ name :: rest) (h : Pulled seeded done set)
    {next : LauncherSet} (hnext : set.reshape name = .ok next) :
    Pulled seeded (done ++ [name]) next := by
  obtain ⟨start, inputs, final, hget, hinputs, hfinal, rfl⟩ :=
    LauncherSet.reshape_eq_ok_iff.1 hnext
  have hfresh : name ∉ done := hmade.not_mem_done hnetwork hsorted
  refine h.insert hfresh ?_ ?_ hget hinputs hfinal
  · intro name' launcher hmem hlauncher source hsource
    exact sources_closed hnetwork hmade hseeded hsorted hmem hlauncher hsource
  · intro launcher hlauncher
    obtain ⟨launcher', hlauncher', heq⟩ := LauncherSet.exists_get_of_reset hseeded hlauncher
    obtain ⟨id, layer, -, -, hmadeFor⟩ := hmade.launchers.madeFor hlauncher'
    have hmadeFor := hmadeFor.of_reset heq.symm
    rw [hmadeFor.length_outShapes, hmadeFor.length_declaredOutputs]

/-- A reshaper finds the layers of the network that it was made for. -/
theorem MadeFor.locates (hmade : reshaper.MadeFor network) (hnetwork : network.WellFormed)
    {order : List LayerId} (horder : network.topologicalOrder = .ok order) :
    Located reshaper network (order.map fun id => (network.nameOf id, id)) where
  names := by
    simp [hmade.sortedLayers_eq horder, Function.comp_def]
  found := by
    intro name id hmem
    obtain ⟨id', hid', heq⟩ := List.mem_map.1 hmem
    cases heq
    obtain ⟨layer, hlayer⟩ := (hnetwork.sorts horder).exists_layer hid'
    obtain ⟨launcher, hget⟩ := hmade.launchers.exists_get hlayer
    have hmadeFor := hmade.launchers.madeFor_layer hnetwork hlayer hget
    rw [Network.nameOf_eq hlayer]
    refine ⟨launcher, _, hget, hlayer, rfl, (Launcher.checkLayer_eq_ok_iff hnetwork).2 ⟨?_, ?_, ?_, ?_⟩⟩
    · exact hmadeFor.layerName_eq.symm
    · simp [hmadeFor.sources_eq, Network.sourcesOf]
    · exact hmadeFor.outputNames_eq.symm
    · exact hmadeFor.sources_eq.symm

theorem MadeFor.outcome_compute (overrides : Overrides) (hmade : reshaper.MadeFor network)
    (hnetwork : network.WellFormed) {order : List LayerId}
    (horder : network.topologicalOrder = .ok order) :
    ∃ seeded, Seeded reshaper overrides reshaper.inputLayers seeded ∧
      (reshaper.compute network overrides).outcome =
        (order.foldlM (fun set id => (step network set (network.nameOf id, id)).outcome) seeded) >>=
          fun set => .ok (order.map fun id => (network.nameOf id, id), set) := by
  have hlocated := hmade.locates hnetwork horder
  obtain ⟨seeded, hseeding, hseeded⟩ := exists_seeded overrides hnetwork hnetwork hmade hlocated
  refine ⟨seeded, hseeded, ?_⟩
  rw [Journal.outcome_foldlM] at hseeding
  simp only [compute, Journal.outcome_bind, Journal.outcome_lift, Journal.outcome_pure,
    (locate_eq_ok_iff hnetwork).2 hlocated, hseeding, ok_bind, Journal.outcome_foldlM,
    List.foldlM_map]

/-- The launcher whose turn it is has not been touched since the start of the run. -/
theorem Pulled.get_eq (hnetwork : network.WellFormed) {order done rest : List LayerId}
    (hsorts : network.Sorts order) {id : LayerId} (horder : order = done ++ id :: rest)
    (hseeded : Seeded reshaper overrides reshaper.inputLayers seeded)
    (h : Pulled seeded (done.map network.nameOf) set) {layer : Layer} {launcher : Launcher}
    (hlayer : network.layers[id]? = some layer)
    (hget : reshaper.launchers.get layer.name = .ok launcher) :
    set.get layer.name = .ok (startLauncher reshaper.inputLayers overrides launcher) := by
  have hfresh : layer.name ∉ done.map network.nameOf := by
    intro hmem
    obtain ⟨other, hother, hname⟩ := List.mem_map.1 hmem
    have hlt : other < network.layers.length := hsorts.mem_iff.1 (by simp [horder, hother])
    rw [← Network.nameOf_eq hlayer] at hname
    have heq := hnetwork.nameOf_inj hlt (List.getElem?_eq_some_iff.1 hlayer).1 hname
    exact hsorts.not_mem_done horder (heq ▸ hother)
  rw [h.pending hfresh, hseeded.get_eq hget]

theorem pulled_of_compute (hnetwork : network.WellFormed) (hother : other.WellFormed)
    (hmade : reshaper.MadeFor network)
    (h : (reshaper.compute other overrides).outcome = .ok (located, set)) :
    Located reshaper other located ∧ ∃ seeded,
      Seeded reshaper overrides reshaper.inputLayers seeded ∧
        Pulled seeded reshaper.sortedLayers set := by
  simp only [compute, Journal.outcome_bind, Journal.outcome_lift, Journal.outcome_pure,
    bind_eq_ok_iff, Except.ok.injEq, Prod.mk.injEq] at h
  obtain ⟨located', hlocated, seeded, hseeding, set', hloop, rfl, rfl⟩ := h
  have hlocated := (locate_eq_ok_iff hother).1 hlocated
  obtain ⟨seeded', hseeded', hseeded⟩ := exists_seeded overrides hnetwork hother hmade hlocated
  rw [hseeding] at hseeded'
  cases hseeded'
  refine ⟨hlocated, seeded, hseeded, ?_⟩
  rw [Journal.outcome_foldlM] at hloop
  have hpulled := foldlM_invariant (fun done set => Pulled seeded (done.map Prod.fst) set)
    (.start hseeded.wellFormed) ?_ hloop
  · rwa [← hlocated.names]
  · intro done entry rest state next hitems hstate hnext
    have hmem : (entry.1, entry.2) ∈ located' := by simp [hitems]
    obtain ⟨_, layer, -, hlayer, -⟩ := hlocated.found hmem
    have hsorted : reshaper.sortedLayers =
        done.map Prod.fst ++ entry.1 :: rest.map Prod.fst := by
      simp [← hlocated.names, hitems]
    rw [outcome_step hstate.wellFormed hlayer] at hnext
    rw [List.map_append]
    exact hstate.step hnetwork hmade hseeded.reset_eq hsorted hnext

end

end Reshaper

end ShapeFlow
