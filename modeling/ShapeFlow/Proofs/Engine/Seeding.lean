import ShapeFlow.Proofs.Engine.Construction

/-!
How a run starts. The layers of the given network are matched with the launchers of the reshaper, and
the outputs of the input layers get the requested or the declared shapes. Of several outputs with one
name only the first gets a shape.
-/

namespace ShapeFlow

/-! ### Matching the network -/

theorem Launcher.checkLayer_eq_ok_iff {launcher : Launcher} {layer : Layer} {network : Network}
    (hnetwork : network.WellFormed) : launcher.checkLayer layer network = .ok () ↔
      layer.name = launcher.layerName ∧ layer.inputs.length = launcher.sources.length ∧
        layer.outputs.map Port.name = launcher.outputNames ∧
          network.sourcesOf layer = launcher.sources := by
  simp only [checkLayer, resolveSources_eq hnetwork, EngineError.ofNetwork, ok_bind]
  split
  · next hports =>
    obtain ⟨hname, hlength, hnames⟩ := hports
    by_cases hsources : network.sourcesOf layer = launcher.sources
    · simp [hname, hlength, hnames, hsources]
    · simp [hsources]
  · next hports =>
    simp only [reduceCtorEq, false_iff]
    rintro ⟨hname, hlength, hnames, -⟩
    exact hports ⟨hname, hlength, hnames⟩

namespace Reshaper

theorem findLayer_eq_ok_iff {network : Network} {name : String} {id : LayerId} :
    findLayer network name = .ok id ↔ network.names.get? name = some id := by
  rw [← Network.layerId_eq_ok_iff]
  unfold findLayer
  cases network.layerId name <;> simp

/-- The layers of a network, each matched with its launcher. -/
structure Located (reshaper : Reshaper) (network : Network) (located : List (String × LayerId)) :
    Prop where
  names : located.map Prod.fst = reshaper.sortedLayers
  found : ∀ {name : String} {id : LayerId}, (name, id) ∈ located → ∃ launcher layer,
    reshaper.launchers.get name = .ok launcher ∧ network.layers[id]? = some layer ∧
      layer.name = name ∧ launcher.checkLayer layer network = .ok ()

section

variable {reshaper : Reshaper} {network : Network} {located : List (String × LayerId)}

private theorem mapM_findLayer_eq_ok_iff {names : List String} :
    (names.mapM fun name => do
      let id ← findLayer network name
      (.ok (name, id) : Except EngineError (String × LayerId))) = .ok located ↔
    located.map Prod.fst = names ∧
      ∀ entry ∈ located, findLayer network entry.1 = .ok entry.2 := by
  have hstep : ∀ name entry, (do
      let id ← findLayer network name
      (.ok (name, id) : Except EngineError (String × LayerId))) = .ok entry ↔
      entry.1 = name ∧ findLayer network entry.1 = .ok entry.2 := by
    rintro name ⟨name', id⟩
    simp only [bind_eq_ok_iff, Except.ok.injEq, Prod.mk.injEq]
    constructor
    · rintro ⟨id', hid, rfl, rfl⟩
      exact ⟨rfl, hid⟩
    · rintro ⟨rfl, hid⟩
      exact ⟨id, hid, rfl, rfl⟩
  constructor
  · intro h
    refine ⟨by simpa using map_eq_of_mapM id Prod.fst (fun name entry hentry =>
      ((hstep name entry).1 hentry).1) h, fun entry hentry => ?_⟩
    obtain ⟨name, -, hname⟩ := exists_item_of_mapM h hentry
    exact ((hstep name entry).1 hname).2
  · rintro ⟨rfl, hall⟩
    rw [mapM_eq_ok_iff, List.forall₂_map_left_iff, List.forall₂_same]
    exact fun entry hentry => (hstep _ entry).2 ⟨rfl, hall entry hentry⟩

theorem locate_eq_ok_iff (hnetwork : network.WellFormed) :
    reshaper.locate network = .ok located ↔ Located reshaper network located := by
  have hcheck : ∀ entry : String × LayerId, (do
      let launcher ← reshaper.launchers.get entry.1
      let layer ← EngineError.ofNetwork (network.layer entry.2)
      launcher.checkLayer layer network) = .ok () ↔ ∃ launcher layer,
        reshaper.launchers.get entry.1 = .ok launcher ∧ network.layers[entry.2]? = some layer ∧
          launcher.checkLayer layer network = .ok () := by
    intro entry
    simp only [bind_eq_ok_iff, EngineError.ofNetwork_eq_ok_iff, Network.layer_eq_ok_iff,
      exists_and_left]
  simp only [locate, bind_eq_ok_iff, Except.ok.injEq, mapM_findLayer_eq_ok_iff,
    findLayer_eq_ok_iff]
  constructor
  · rintro ⟨found, ⟨hnames, hids⟩, ⟨⟩, hchecked, rfl⟩
    refine ⟨hnames, fun {name id} hmem => ?_⟩
    obtain ⟨launcher, layer, hget, hlayer, hcheck⟩ :=
      (hcheck _).1 (forM_eq_ok_iff.1 hchecked _ hmem)
    obtain ⟨layer', hlayer', hname⟩ := hnetwork.names_iff.1 (hids _ hmem)
    rw [hlayer] at hlayer'
    cases hlayer'
    exact ⟨launcher, layer, hget, hlayer, hname, hcheck⟩
  · rintro ⟨hnames, hfound⟩
    refine ⟨located, ⟨hnames, fun entry hmem => ?_⟩, (), forM_eq_ok_iff.2 fun entry hmem => ?_, rfl⟩
    · obtain ⟨_, layer, -, hlayer, hname, -⟩ := hfound hmem
      exact hnetwork.names_iff.2 ⟨layer, hlayer, hname⟩
    · obtain ⟨launcher, layer, hget, hlayer, -, hchecked⟩ := hfound hmem
      exact (hcheck entry).2 ⟨launcher, layer, hget, hlayer, hchecked⟩

end

end Reshaper

/-- A layer of another network that stands in the place of a layer of this one. -/
structure Layer.Matches (network : Network) (layer : Layer) (other : Network) (found : Layer) :
    Prop where
  name_eq : found.name = layer.name
  length_inputs : found.inputs.length = layer.inputs.length
  names_outputs : found.outputs.map Port.name = layer.outputs.map Port.name
  sources_eq : other.sourcesOf found = network.sourcesOf layer

namespace Reshaper.Located

variable {network other : Network} {reshaper : Reshaper} {located : List (String × LayerId)}

theorem matches_of_mem (hnetwork : network.WellFormed) (hother : other.WellFormed)
    (hmade : reshaper.MadeFor network) (h : Located reshaper other located) {id id' : LayerId}
    {layer : Layer} (hlayer : network.layers[id]? = some layer)
    (hentry : (layer.name, id') ∈ located) :
    ∃ found, other.layers[id']? = some found ∧ layer.Matches network other found := by
  obtain ⟨launcher, found, hget, hfound, hfoundName, hcheck⟩ := h.found hentry
  have hmadeFor := hmade.launchers.madeFor_layer hnetwork hlayer hget
  obtain ⟨-, hinputs, houtputs, hsources⟩ := (Launcher.checkLayer_eq_ok_iff hother).1 hcheck
  have hlength : (network.sourcesOf layer).length = layer.inputs.length := by
    simp [Network.sourcesOf]
  refine ⟨found, hfound, hfoundName, ?_, ?_, ?_⟩
  · rw [hinputs, hmadeFor.sources_eq, hlength]
  · rw [houtputs, hmadeFor.outputNames_eq]
  · rw [hsources, hmadeFor.sources_eq]

theorem exists_found (hnetwork : network.WellFormed) (hother : other.WellFormed)
    (hmade : reshaper.MadeFor network) (h : Located reshaper other located) {id : LayerId}
    {layer : Layer} (hlayer : network.layers[id]? = some layer) :
    ∃ (id' : LayerId) (found : Layer), (layer.name, id') ∈ located ∧
      other.layers[id']? = some found ∧ layer.Matches network other found := by
  have hmem : layer.name ∈ located.map Prod.fst :=
    h.names ▸ (hmade.mem_sortedLayers_iff hnetwork).2 ⟨id, layer, hlayer, rfl⟩
  obtain ⟨⟨name, id'⟩, hentry, hname⟩ := List.mem_map.1 hmem
  dsimp only at hname
  subst hname
  obtain ⟨found, hfound, hmatches⟩ := h.matches_of_mem hnetwork hother hmade hlayer hentry
  exact ⟨id', found, hentry, hfound, hmatches⟩

theorem exists_layer (hnetwork : network.WellFormed) (hmade : reshaper.MadeFor network)
    (h : Located reshaper other located) {name : String} {id' : LayerId}
    (hentry : (name, id') ∈ located) :
    ∃ (id : LayerId) (layer : Layer), network.layers[id]? = some layer ∧ layer.name = name :=
  (hmade.mem_sortedLayers_iff hnetwork).1 (h.names ▸ List.mem_map_of_mem hentry)

theorem nodup_ids (hnetwork : network.WellFormed) (hmade : reshaper.MadeFor network)
    (h : Located reshaper other located) : (located.map Prod.snd).Nodup := by
  have hnodup : (located.map Prod.fst).Nodup := h.names ▸ hmade.nodup_sortedLayers hnetwork
  apply hnodup.of_map.map_on
  rintro ⟨name, id⟩ hmem ⟨name', id'⟩ hmem' heq
  dsimp only at heq
  subst heq
  obtain ⟨_, layer, -, hlayer, hname, -⟩ := h.found hmem
  obtain ⟨_, layer', -, hlayer', hname', -⟩ := h.found hmem'
  rw [hlayer] at hlayer'
  cases hlayer'
  rw [← hname, ← hname']

end Reshaper.Located

/-! ### Seeding one launcher -/

namespace Launcher

/-- The shape that an output of an input layer starts with. -/
def seedShape (launcher : Launcher) (overrides : Overrides) (port : Nat) : Option Shape :=
  launcher.outputNames[port]? >>= fun name =>
    if launcher.outputNames.findIdx? (· == name) = some port then
      match overrides.get? name, launcher.kind with
      | some _, .constant => none
      | some shape, _ => some shape
      | none, _ => launcher.declaredOutputs[port]?
    else none

/-- The launcher of an input layer at the start of a run. -/
def seeded (launcher : Launcher) (overrides : Overrides) : Launcher :=
  { launcher with
    outShapes := (List.range launcher.outputNames.length).map (launcher.seedShape overrides) }

theorem seedShape_of_findIdx? {launcher : Launcher} {overrides : Overrides} {name : String}
    {index : Nat} (hindex : launcher.outputNames.findIdx? (· == name) = some index) :
    launcher.seedShape overrides index =
      match overrides.get? name, launcher.kind with
      | some _, .constant => none
      | some shape, _ => some shape
      | none, _ => launcher.declaredOutputs[index]? := by
  obtain ⟨hlt, hname, -⟩ := List.findIdx?_eq_some_iff_getElem.1 hindex
  rw [beq_iff_eq] at hname
  simp only [seedShape, List.getElem?_eq_getElem hlt, Option.bind_eq_bind, Option.bind_some, hname,
    hindex, if_true]

/-- Seeding one port writes the first output with its name. A request for a constant writes nothing,
which leaves the output without a shape. -/
theorem outcome_seedPort {launcher : Launcher} {overrides : Overrides} {port : Port} {index : Nat}
    (hindex : launcher.outputNames.findIdx? (· == port.name) = some index)
    (hempty : launcher.kind = .constant → overrides.get? port.name ≠ none →
      launcher.outShapes[index]? = some none) :
    (Reshaper.seedPort overrides launcher port).outcome = .ok { launcher with
      outShapes := launcher.outShapes.set index (launcher.seedShape overrides index) } := by
  have houtputIndex : launcher.outputIndex port.name = .ok index := by
    simp only [outputIndex, hindex]
  rw [seedShape_of_findIdx? hindex]
  unfold Reshaper.seedPort
  cases hrequest : overrides.get? port.name with
  | none =>
    simp only [Journal.outcome_lift, setDeclaredShape, houtputIndex, ok_bind]
  | some shape =>
    simp only [setShape, Journal.outcome_bind, Journal.outcome_lift, houtputIndex, ok_bind]
    cases hkind : launcher.kind with
    | constant =>
      have hnone := hempty hkind (by simp [hrequest])
      obtain ⟨hlt, hget⟩ := List.getElem?_eq_some_iff.1 hnone
      have hset : launcher.outShapes.set index none = launcher.outShapes := by
        rw [← hget, List.set_getElem_self]
      simp only [hset, Journal.outcome_bind, Journal.outcome_note, Journal.outcome_pure, ok_bind,
        Except.ok.injEq]
      rw [← hkind]
    | _ => rfl

/-- The first outputs with the names of the ports that are done have got their shapes. -/
structure PartlySeeded (launcher : Launcher) (overrides : Overrides) (done : List Port)
    (state : Launcher) : Prop where
  same : { state with outShapes := launcher.outShapes } = launcher
  length_eq : state.outShapes.length = launcher.outputNames.length
  shapes_eq : ∀ index < launcher.outputNames.length, state.outShapes[index]? =
    some (if ∃ port ∈ done, launcher.outputNames.findIdx? (· == port.name) = some index then
      launcher.seedShape overrides index else none)

section

variable {launcher : Launcher} {overrides : Overrides}

theorem PartlySeeded.next {done : List Port} {state : Launcher} {port : Port}
    (h : PartlySeeded launcher overrides done state) (hport : port.name ∈ launcher.outputNames) :
    ∃ next, (Reshaper.seedPort overrides state port).outcome = .ok next ∧
      PartlySeeded launcher overrides (done ++ [port]) next := by
  obtain ⟨index, hindex⟩ : ∃ index, launcher.outputNames.findIdx? (· == port.name) = some index := by
    rw [← Option.isSome_iff_exists, List.findIdx?_isSome, List.any_eq_true]
    exact ⟨port.name, hport, beq_self_eq_true _⟩
  obtain ⟨hlt, -⟩ := List.findIdx?_eq_some_iff_getElem.1 hindex
  have hnames : state.outputNames = launcher.outputNames := by rw [← h.same]
  have hkind : state.kind = launcher.kind := by rw [← h.same]
  have hseed : state.seedShape overrides index = launcher.seedShape overrides index := by
    rw [← h.same]
    rfl
  refine ⟨_, outcome_seedPort (hnames ▸ hindex) ?_, ?_, ?_, ?_⟩
  · intro hconst hrequest
    rw [h.shapes_eq index hlt, seedShape_of_findIdx? hindex, ← hkind, hconst]
    cases hget : overrides.get? port.name with
    | none => exact absurd hget hrequest
    | some shape => simp
  · exact h.same
  · simp [h.length_eq]
  · intro other hother
    rw [List.getElem?_set, hseed]
    by_cases heq : index = other
    · subst heq
      have hdone : ∃ port' ∈ done ++ [port],
          launcher.outputNames.findIdx? (· == port'.name) = some index := ⟨port, by simp, hindex⟩
      rw [if_pos rfl, if_pos (h.length_eq ▸ hlt), if_pos hdone]
    · have hsame : (∃ port' ∈ done ++ [port],
          launcher.outputNames.findIdx? (· == port'.name) = some other) ↔
          ∃ port' ∈ done, launcher.outputNames.findIdx? (· == port'.name) = some other := by
        constructor
        · rintro ⟨port', hmem, hfind⟩
          rcases List.mem_append.1 hmem with hmem | hmem
          · exact ⟨port', hmem, hfind⟩
          · rw [List.mem_singleton.1 hmem, hindex] at hfind
            exact absurd (Option.some.inj hfind) heq
        · rintro ⟨port', hmem, hfind⟩
          exact ⟨port', List.mem_append_left _ hmem, hfind⟩
      rw [if_neg heq, h.shapes_eq other hother, if_congr hsame rfl rfl]

theorem PartlySeeded.eq_seeded {ports : List Port} {state : Launcher}
    (h : PartlySeeded launcher overrides ports state)
    (hnames : ports.map Port.name = launcher.outputNames) : state = launcher.seeded overrides := by
  have hshapes : state.outShapes =
      (List.range launcher.outputNames.length).map (launcher.seedShape overrides) := by
    apply List.ext_getElem?
    intro index
    by_cases hlt : index < launcher.outputNames.length
    · rw [h.shapes_eq index hlt, List.getElem?_map, List.getElem?_range hlt, Option.map_some,
        Option.some.injEq]
      split
      · rfl
      · next hnone =>
        -- the output is not the first one with its name
        have hlater : launcher.outputNames.findIdx? (· == launcher.outputNames[index]) ≠
            some index := by
          intro hfind
          have hmem : launcher.outputNames[index] ∈ ports.map Port.name := by
            rw [hnames]
            exact List.getElem_mem hlt
          obtain ⟨port, hport, hname⟩ := List.mem_map.1 hmem
          exact hnone ⟨port, hport, by rwa [hname]⟩
        simp [seedShape, List.getElem?_eq_getElem hlt, hlater]
    · rw [List.getElem?_eq_none (by rw [h.length_eq]; omega),
        List.getElem?_eq_none (by simp; omega)]
  calc state = { ({ state with outShapes := launcher.outShapes } : Launcher) with
        outShapes := state.outShapes } := rfl
    _ = launcher.seeded overrides := by rw [h.same, hshapes, seeded]

theorem outcome_foldlM_seedPort {ports : List Port}
    (hnames : ports.map Port.name = launcher.outputNames)
    (hempty : launcher.outShapes = List.replicate launcher.outputNames.length none) :
    (ports.foldlM (Reshaper.seedPort overrides) launcher).outcome =
      .ok (launcher.seeded overrides) := by
  have hstart : PartlySeeded launcher overrides [] launcher :=
    ⟨rfl, by simp [hempty], fun index hlt => by simp [hempty, hlt]⟩
  have hstep : ∀ done port rest state, ports = done ++ port :: rest →
      PartlySeeded launcher overrides done state →
      ∃ next, (Reshaper.seedPort overrides state port).outcome = .ok next ∧
        PartlySeeded launcher overrides (done ++ [port]) next := by
    intro done port rest state hports hstate
    apply hstate.next
    rw [← hnames, hports]
    simp
  obtain ⟨last, hlast, hseeded⟩ := foldlM_total (PartlySeeded launcher overrides) hstart hstep
  rw [Journal.outcome_foldlM, hlast, hseeded.eq_seeded hnames]

theorem reset_seeded (h : launcher.outShapes.length = launcher.outputNames.length) :
    (launcher.seeded overrides).reset = launcher.reset := by
  rw [reset_eq_iff]
  simp [seeded, h]

end

end Launcher

/-! ### Seeding all input layers -/

namespace Reshaper

/-- The launcher of a layer at the start of a run, if the layers listed are the input layers. -/
def startLauncher (inputs : List String) (overrides : Overrides) (launcher : Launcher) : Launcher :=
  if launcher.layerName ∈ inputs then launcher.reset.seeded overrides else launcher.reset

/-- The launchers of a reshaper once the layers listed have been seeded. -/
structure Seeded (reshaper : Reshaper) (overrides : Overrides) (done : List String)
    (set : LauncherSet) : Prop where
  wellFormed : set.WellFormed
  reset_eq : set.reset = reshaper.launchers.reset
  get_eq : ∀ {name : String} {launcher : Launcher}, reshaper.launchers.get name = .ok launcher →
    set.get name = .ok (startLauncher done overrides launcher)

section

variable {network other : Network} {reshaper : Reshaper} {located : List (String × LayerId)}
  {overrides : Overrides}

theorem outcome_seedLayer {set : LauncherSet} {name : String} {id : LayerId} {launcher : Launcher}
    {layer : Layer} (hid : findLayer other name = .ok id) (hget : set.get name = .ok launcher)
    (hlayer : other.layers[id]? = some layer)
    (hnames : layer.outputs.map Port.name = launcher.outputNames)
    (hempty : launcher.outShapes = List.replicate launcher.outputNames.length none) :
    (seedLayer other overrides set name).outcome = .ok (set.insert (launcher.seeded overrides)) := by
  simp only [seedLayer, Journal.outcome_bind, Journal.outcome_lift, hid, hget, ok_bind,
    Network.layer_eq_ok_iff.2 hlayer, EngineError.ofNetwork,
    Launcher.outcome_foldlM_seedPort hnames hempty, Journal.outcome_pure]

theorem Seeded.start (h : reshaper.launchers.WellFormed) :
    Seeded reshaper overrides [] reshaper.launchers.reset where
  wellFormed := h.reset
  reset_eq := by simp [LauncherSet.reset]
  get_eq := by
    intro name launcher hget
    rw [LauncherSet.get_reset, hget]
    rfl

theorem Seeded.insert (hmade : reshaper.MadeFor network) {done : List String} {name : String}
    {set : LauncherSet} {launcher : Launcher} (h : Seeded reshaper overrides done set)
    (hfresh : name ∉ done) (hget : reshaper.launchers.get name = .ok launcher) :
    set.get name = .ok launcher.reset ∧
      Seeded reshaper overrides (done ++ [name]) (set.insert (launcher.reset.seeded overrides)) := by
  have hname := hmade.launchers.wellFormed.layerName_eq hget
  have hstart : set.get name = .ok launcher.reset := by
    rw [h.get_eq hget, startLauncher, hname, if_neg hfresh]
  obtain ⟨id, layer, hlayer, rfl, hmadeFor⟩ := hmade.launchers.madeFor hget
  have hreset : (launcher.reset.seeded overrides).reset = launcher.reset := by
    rw [Launcher.reset_seeded, Launcher.reset_reset]
    simp [Launcher.reset, hmadeFor.length_outShapes, hmadeFor.outputNames_eq]
  refine ⟨hstart, h.wellFormed.insert _, ?_, ?_⟩
  · rw [LauncherSet.reset_insert, h.reset_eq]
    · exact (congrArg set.get hname).trans hstart
    · rw [hreset, Launcher.reset_reset]
  · intro name' launcher' hget'
    have hname' := hmade.launchers.wellFormed.layerName_eq hget'
    rw [h.wellFormed.get_insert, startLauncher, hname']
    split
    · next heq =>
      subst heq
      change reshaper.launchers.get launcher.layerName = _ at hget'
      rw [hname, hget] at hget'
      cases hget'
      rw [if_pos (by simp [Launcher.seeded, Launcher.reset, hname])]
    · next hne =>
      have hsame : name' ∈ done ++ [layer.name] ↔ name' ∈ done := by
        have hne : name' ≠ layer.name := hname ▸ hne
        simp [hne]
      rw [h.get_eq hget', startLauncher, hname', if_congr hsame rfl rfl]

theorem Seeded.step (hnetwork : network.WellFormed) (hother : other.WellFormed)
    (hmade : reshaper.MadeFor network) (h : Located reshaper other located)
    {done rest : List String} {name : String} {set : LauncherSet}
    (hinputs : reshaper.inputLayers = done ++ name :: rest)
    (hset : Seeded reshaper overrides done set) :
    ∃ launcher, set.get name = .ok launcher ∧
      (seedLayer other overrides set name).outcome = .ok (set.insert (launcher.seeded overrides)) ∧
        Seeded reshaper overrides (done ++ [name]) (set.insert (launcher.seeded overrides)) := by
  have hnodup : reshaper.inputLayers.Nodup := hmade.inputs ▸
    hnetwork.nodup_map_nameOf hnetwork.nodup_inputLayers fun _ => hnetwork.lt_of_mem_inputLayers
  have hfresh : name ∉ done := by
    rw [hinputs, List.nodup_append] at hnodup
    exact fun hdone => hnodup.2.2 name hdone name (by simp) rfl
  obtain ⟨id, hid, rfl⟩ : ∃ id ∈ network.inputLayers, network.nameOf id = name := by
    rw [← List.mem_map, ← hmade.inputs, hinputs]
    simp
  obtain ⟨layer, hlayer, -⟩ := hnetwork.mem_inputLayers_iff.1 hid
  rw [Network.nameOf_eq hlayer] at *
  obtain ⟨launcher, hget⟩ := hmade.launchers.exists_get hlayer
  obtain ⟨id', found, hentry, hfound, hmatches⟩ := h.exists_found hnetwork hother hmade hlayer
  obtain ⟨hstart, hnext⟩ := hset.insert hmade hfresh hget
  have hmadeFor := hmade.launchers.madeFor_layer hnetwork hlayer hget
  refine ⟨launcher.reset, hstart, outcome_seedLayer (findLayer_eq_ok_iff.2 (hother.names_iff.2
    ⟨found, hfound, hmatches.name_eq⟩)) hstart hfound ?_ ?_, hnext⟩
  · rw [hmatches.names_outputs]
    exact hmadeFor.outputNames_eq.symm
  · simp [Launcher.reset, hmadeFor.length_outShapes, hmadeFor.outputNames_eq, List.map_const']

theorem exists_seeded (overrides : Overrides) (hnetwork : network.WellFormed)
    (hother : other.WellFormed) (hmade : reshaper.MadeFor network) (h : Located reshaper other located) :
    ∃ set, (reshaper.inputLayers.foldlM (seedLayer other overrides)
      reshaper.launchers.reset).outcome = .ok set ∧
        Seeded reshaper overrides reshaper.inputLayers set := by
  rw [Journal.outcome_foldlM]
  apply foldlM_total (Seeded reshaper overrides) (.start hmade.launchers.wellFormed)
  intro done name rest set hinputs hset
  obtain ⟨launcher, -, hnext, hseeded⟩ := hset.step hnetwork hother hmade h hinputs
  exact ⟨_, hnext, hseeded⟩

end

end Reshaper

end ShapeFlow
