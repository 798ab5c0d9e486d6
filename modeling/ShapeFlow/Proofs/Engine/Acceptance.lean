import ShapeFlow.Proofs.Engine.Construction
import ShapeFlow.Proofs.Network.Cycle

/-!
The networks that a reshaper can be built for. Every layer has to suit its place, at the start of the
graph or inside it, and the graph must have layers and no cycle; the registry decides about the kinds
of the launchers only. That some layer stands at the start is not asked for, since a graph without a
cycle has a first layer.
-/

namespace ShapeFlow

/-! ### Places in the graph -/

namespace Network

/-- The layer is flagged as an input of the network, or no connection ends in it. -/
def Starts (network : Network) (layer : Layer) : Prop :=
  layer.isNetworkInput = true ∨
    ∀ connection ∈ network.connections, connection.target.layer ≠ layer.id

variable {network : Network} {layer : Layer} {id : LayerId}

theorem WellFormed.isInput_iff (h : network.WellFormed) (hlayer : network.layers[id]? = some layer) :
    network.isInput layer = true ↔ network.Starts layer := by
  have hfed : (∀ port < layer.inputs.length, network.producerOf? ⟨layer.id, port⟩ = none) ↔
      ∀ connection ∈ network.connections, connection.target.layer ≠ layer.id := by
    constructor
    · rintro hnone ⟨source, target⟩ hmem heq
      obtain ⟨fed, hfed, hport⟩ := h.target_exists _ hmem
      dsimp only at heq hfed hport
      rw [heq, h.id_eq hlayer, hlayer] at hfed
      cases hfed
      have hproducer : network.producerOf? target = some source := h.producers_iff.2 hmem
      have hfree := hnone target.port hport
      rw [← heq, hproducer] at hfree
      cases hfree
    · intro hends port _
      by_contra hsome
      obtain ⟨source, hsource⟩ := Option.ne_none_iff_exists'.1 hsome
      exact hends _ (h.producers_iff.1 hsource) rfl
  rw [Starts, ← hfed, isInput, Bool.or_eq_true, List.all_eq_true]
  simp [Table.contains_eq, producerOf?]

theorem WellFormed.mem_inputLayers_iff_starts (h : network.WellFormed)
    (hlayer : network.layers[id]? = some layer) :
    id ∈ network.inputLayers ↔ network.Starts layer := by
  rw [h.mem_inputLayers_iff, ← h.isInput_iff hlayer]
  constructor
  · rintro ⟨found, hfound, hinput⟩
    rw [hlayer] at hfound
    cases hfound
    exact hinput
  · exact fun hinput => ⟨layer, hlayer, hinput⟩

/-- Nothing feeds the first layer of an order. -/
theorem Sorts.inputLayers_ne_nil (hnetwork : network.WellFormed) {order : List LayerId}
    (h : network.Sorts order) (hlayers : network.layers ≠ []) : network.inputLayers ≠ [] := by
  have hmem : 0 ∈ order := h.mem_iff.2 (List.length_pos_iff.2 hlayers)
  obtain ⟨first, rest, horder⟩ := List.exists_cons_of_ne_nil (List.ne_nil_of_mem hmem)
  have hfirst : first ∈ order := by simp [horder]
  obtain ⟨layer, hlayer⟩ := h.exists_layer hfirst
  have hstarts : network.Starts layer := by
    right
    intro connection hconnection htarget
    rw [hnetwork.id_eq hlayer] at htarget
    have hbefore : order = [] ++ first :: rest := horder
    cases h.source_mem hbefore connection hconnection htarget
  exact List.ne_nil_of_mem ((hnetwork.mem_inputLayers_iff_starts hlayer).2 hstarts)

end Network

/-! ### Layers that suit their places -/

namespace Layer

/-- The index of a memory cell, which may stand between blanks. -/
def memoryIndex? (layer : Layer) : Option Int :=
  layer.params.get? "index" >>= fun raw => Text.integer? (Text.trim raw.toList)

/-- An input, a constant, or a memory cell that is read. -/
def SuitsStart (layer : Layer) : Prop :=
  layer.isType "input" = true ∨ layer.isType "const" = true ∨
    layer.isType "memory" = true ∧ ∃ index, layer.memoryIndex? = some index ∧ index ≠ 0

/-- Neither an input nor a constant, and of the memory cells one that is written. -/
def SuitsInside (layer : Layer) : Prop :=
  layer.isType "input" = false ∧ layer.isType "const" = false ∧
    (layer.isType "memory" = true → layer.memoryIndex? = some 0)

def startKind (layer : Layer) : LauncherKind :=
  if layer.isType "const" then .constant else .input

def insideKind (layer : Layer) (registry : Registry) : LauncherKind :=
  match registry.get? layer.typeName with
  | none => .passThrough
  | some rule => if layer.isType "memory" then .memoryOutput else .ordinary rule

variable {layer : Layer}

theorem memorySide_eq_ok_iff {side : MemorySide} : layer.memorySide = .ok side ↔
    ∃ index, layer.memoryIndex? = some index ∧ side = if index = 0 then .write else .read := by
  unfold memorySide memoryIndex?
  cases layer.params.get? "index" with
  | none => simp
  | some raw =>
    cases hindex : Text.integer? (Text.trim raw.toList) with
    | none => simp [hindex]
    | some index => simp [hindex, eq_comm]

theorem memorySide_eq_read_iff :
    layer.memorySide = .ok .read ↔ ∃ index, layer.memoryIndex? = some index ∧ index ≠ 0 := by
  rw [memorySide_eq_ok_iff]
  refine exists_congr fun index => and_congr_right fun _ => ?_
  by_cases hzero : index = 0 <;> simp [hzero]

theorem memorySide_eq_write_iff : layer.memorySide = .ok .write ↔ layer.memoryIndex? = some 0 := by
  rw [memorySide_eq_ok_iff]
  constructor
  · rintro ⟨index, hindex, hside⟩
    split at hside
    · next hzero => rw [hindex, hzero]
    · cases hside
  · exact fun hzero => ⟨0, hzero, rfl⟩

theorem inputKind_eq_ok_iff {kind : LauncherKind} :
    layer.inputKind = .ok kind ↔ layer.SuitsStart ∧ kind = layer.startKind := by
  unfold SuitsStart startKind
  constructor
  · intro h
    rcases inputKind_cases h with ⟨rfl, ⟨hmemory, hread⟩ | ⟨hconst, hinput⟩⟩ | ⟨rfl, hconst⟩
    · have hconst : layer.isType "const" = false := isType_disjoint hmemory (by decide)
      exact ⟨.inr (.inr ⟨hmemory, memorySide_eq_read_iff.1 hread⟩), by simp [hconst]⟩
    · exact ⟨.inl hinput, by simp [hconst]⟩
    · exact ⟨.inr (.inl hconst), by simp [hconst]⟩
  · rintro ⟨hinput | hconst | ⟨hmemory, hindex⟩, rfl⟩
    · have hmemory : layer.isType "memory" = false := isType_disjoint hinput (by decide)
      have hconst : layer.isType "const" = false := isType_disjoint hinput (by decide)
      simp [inputKind, hmemory, hconst, hinput]
    · have hmemory : layer.isType "memory" = false := isType_disjoint hconst (by decide)
      simp [inputKind, hmemory, hconst]
    · have hconst : layer.isType "const" = false := isType_disjoint hmemory (by decide)
      simp [inputKind, hmemory, hconst, memorySide_eq_read_iff.2 hindex]

theorem checkInterior_eq_ok_iff {side : Option MemorySide} : layer.checkInterior = .ok side ↔
    layer.SuitsInside ∧ side = if layer.isType "memory" then some .write else none := by
  unfold checkInterior SuitsInside
  dsimp only
  by_cases hmemory : layer.isType "memory" = true
  · have hinput : layer.isType "input" = false := isType_disjoint hmemory (by decide)
    have hconst : layer.isType "const" = false := isType_disjoint hmemory (by decide)
    simp only [hmemory, hinput, hconst, if_true, bind_eq_ok_iff, map_eq_ok_iff, true_and, true_implies,
      ← memorySide_eq_write_iff]
    constructor
    · rintro ⟨-, ⟨found, hfound, rfl⟩, h⟩
      cases found with
      | read => simp [refuseRole] at h
      | write => exact ⟨hfound, by simpa [eq_comm] using h⟩
    · rintro ⟨hwrite, rfl⟩
      exact ⟨_, ⟨.write, hwrite, rfl⟩, by simp⟩
  · rw [if_neg hmemory, ok_bind]
    by_cases hconst : layer.isType "const" = true
    · simp [hconst, refuseRole]
    · by_cases hinput : layer.isType "input" = true
      · simp [hinput, refuseRole]
      · simp [hmemory, hconst, hinput, eq_comm]

theorem interiorKind_eq_ok_iff {registry : Registry} {kind : LauncherKind} :
    (layer.interiorKind registry).outcome = .ok kind ↔
      layer.SuitsInside ∧ kind = layer.insideKind registry := by
  simp only [interiorKind, Journal.outcome_bind, Journal.outcome_lift, bind_eq_ok_iff,
    checkInterior_eq_ok_iff, insideKind]
  constructor
  · rintro ⟨side, ⟨hsuits, rfl⟩, hkind⟩
    refine ⟨hsuits, ?_⟩
    split at hkind
    · next rule hrule =>
      cases hkind
      by_cases hmemory : layer.isType "memory" = true <;> simp [hmemory, hrule]
    · next hnone =>
      cases hkind
      rw [hnone]
  · rintro ⟨hsuits, rfl⟩
    refine ⟨_, ⟨hsuits, rfl⟩, ?_⟩
    cases registry.get? layer.typeName with
    | none => rfl
    | some rule => by_cases hmemory : layer.isType "memory" = true <;> simp [hmemory]

end Layer

/-! ### One launcher for every layer -/

namespace LauncherSet

/-- Launchers for different layers are kept in the order in which they were inserted. -/
theorem launchers_foldl_insert {launchers : List Launcher}
    (hnodup : (launchers.map Launcher.layerName).Nodup) :
    (launchers.foldl LauncherSet.insert .empty).launchers = launchers := by
  refine (foldl_invariant (fun done (set : LauncherSet) => set.WellFormed ∧ set.launchers = done)
    ⟨.empty, rfl⟩ ?_).2
  rintro done launcher rest set hitems ⟨hset, rfl⟩
  refine ⟨hset.insert launcher, ?_⟩
  have hfresh : set.index.get? launcher.layerName = none := by
    by_contra hsome
    obtain ⟨slot, hslot⟩ := Option.ne_none_iff_exists'.1 hsome
    obtain ⟨other, hother, hname⟩ := hset.index_iff.1 hslot
    rw [hitems, List.map_append, List.nodup_append] at hnodup
    exact hnodup.2.2 _ (List.mem_map_of_mem (List.mem_of_getElem? hother)) launcher.layerName
      (by simp) hname
  unfold LauncherSet.insert
  rw [hfresh]

end LauncherSet

namespace Network

/-- There are layers, no layer lies on a cycle, and every layer suits its place. -/
structure Accepted (network : Network) : Prop where
  layers_ne_nil : network.layers ≠ []
  acyclic : ∀ id, ¬ network.OnCycle id
  starts : ∀ layer ∈ network.layers, network.Starts layer → layer.SuitsStart
  inside : ∀ layer ∈ network.layers, ¬ network.Starts layer → layer.SuitsInside

end Network

namespace Reshaper

/-- The reshaper has the registry, the layers in topological order, and for every layer one launcher,
of the kind that the place and the type of the layer call for. -/
structure Complete (network : Network) (registry : Registry) (reshaper : Reshaper) : Prop where
  registry_eq : reshaper.registry = registry
  sorted : ∃ order, network.topologicalOrder = .ok order ∧
    reshaper.sortedLayers = order.map network.nameOf
  names_perm : (reshaper.launchers.launchers.map Launcher.layerName).Perm
    (network.layers.map Layer.name)
  kind_eq : ∀ layer ∈ network.layers, ∃ launcher, reshaper.launcher layer.name = .ok launcher ∧
    (network.Starts layer → launcher.kind = layer.startKind) ∧
    (¬ network.Starts layer → launcher.kind = layer.insideKind registry)

variable {network : Network} {registry : Registry} {reshaper : Reshaper} {layer : Layer}
  {id : LayerId}

theorem exists_launcherFor_iff_suits (hnetwork : network.WellFormed)
    (hlayer : network.layers[id]? = some layer) :
    (∃ launcher, (launcherFor network registry network.inputLayers id).outcome = .ok launcher) ↔
      (network.Starts layer → layer.SuitsStart) ∧ (¬ network.Starts layer → layer.SuitsInside) := by
  have hplace := hnetwork.mem_inputLayers_iff_starts hlayer
  rw [exists_launcherFor_iff hnetwork hlayer]
  by_cases hstarts : network.Starts layer
  · simp [hplace, hstarts, Layer.inputKind_eq_ok_iff]
  · simp [hplace, hstarts, Layer.interiorKind_eq_ok_iff]

theorem exists_build_iff (hnetwork : network.WellFormed) :
    (∃ reshaper, (build network registry).outcome = .ok reshaper) ↔ network.Accepted := by
  constructor
  · rintro ⟨reshaper, hbuild⟩
    obtain ⟨order, -, horder, hinputs, -, -⟩ := (build_eq_ok_iff hnetwork).1 hbuild
    have hsuits : ∀ layer ∈ network.layers, (network.Starts layer → layer.SuitsStart) ∧
        (¬ network.Starts layer → layer.SuitsInside) := by
      intro layer hmem
      obtain ⟨id, hlayer⟩ := List.mem_iff_getElem?.1 hmem
      obtain ⟨launcher, -, hmade⟩ := (build_eq_ok hnetwork hbuild).2 hlayer
      exact (exists_launcherFor_iff_suits hnetwork hlayer).1 ⟨launcher, hmade⟩
    refine ⟨?_, hnetwork.exists_order_iff.1 ⟨order, horder⟩, fun layer hmem => (hsuits layer hmem).1,
      fun layer hmem => (hsuits layer hmem).2⟩
    intro hnil
    exact hinputs (by simp [Network.inputLayers, hnil])
  · intro haccepted
    obtain ⟨order, horder⟩ := hnetwork.exists_order_iff.2 haccepted.acyclic
    have hinputs := (hnetwork.sorts horder).inputLayers_ne_nil hnetwork haccepted.layers_ne_nil
    refine exists_build_of_launchers hnetwork horder hinputs fun {id layer} hlayer => ?_
    have hmem := List.mem_of_getElem? hlayer
    exact (exists_launcherFor_iff_suits hnetwork hlayer).2
      ⟨haccepted.starts layer hmem, haccepted.inside layer hmem⟩

theorem kind_of_starts (hnetwork : network.WellFormed)
    (hbuild : (build network registry).outcome = .ok reshaper)
    (hlayer : network.layers[id]? = some layer) {launcher : Launcher}
    (hget : reshaper.launchers.get layer.name = .ok launcher) :
    (network.Starts layer → launcher.kind = layer.startKind) ∧
      (¬ network.Starts layer → launcher.kind = layer.insideKind registry) := by
  have hkind := kind_of_build hnetwork hbuild hlayer hget
  have hplace := hnetwork.mem_inputLayers_iff_starts hlayer
  rw [hnetwork.id_eq hlayer] at hkind
  constructor
  · intro hstarts
    rw [if_pos (hplace.2 hstarts)] at hkind
    exact (Layer.inputKind_eq_ok_iff.1 hkind).2
  · intro hinside
    rw [if_neg (mt hplace.1 hinside)] at hkind
    exact (Layer.interiorKind_eq_ok_iff.1 hkind).2

theorem names_of_build (hnetwork : network.WellFormed)
    (hbuild : (build network registry).outcome = .ok reshaper) :
    (reshaper.launchers.launchers.map Launcher.layerName).Perm (network.layers.map Layer.name) := by
  obtain ⟨order, launchers, horder, -, hmade, rfl⟩ := (build_eq_ok_iff hnetwork).1 hbuild
  have hsorts := hnetwork.sorts horder
  have hnames := map_layerName_of_mapM hnetwork hmade
  have hnodup : (launchers.map Launcher.layerName).Nodup := by
    rw [hnames]
    exact hnetwork.nodup_map_nameOf hsorts.nodup fun _ hid => hsorts.mem_iff.1 hid
  have hrange : order.Perm (List.range network.layers.length) :=
    (List.perm_ext_iff_of_nodup hsorts.nodup List.nodup_range).2 fun id => by
      rw [hsorts.mem_iff, List.mem_range]
  have hlist : (assemble network registry launchers).launchers.launchers = launchers :=
    LauncherSet.launchers_foldl_insert hnodup
  have hids : (List.range network.layers.length).map network.nameOf =
      network.layers.map Layer.name := by
    rw [← hnetwork.map_id_eq_range, List.map_map]
    refine List.map_congr_left fun layer hmem => ?_
    obtain ⟨id, hlayer⟩ := List.mem_iff_getElem?.1 hmem
    rw [Function.comp_apply, hnetwork.id_eq hlayer, Network.nameOf_eq hlayer]
  rw [hlist, hnames, ← hids]
  exact hrange.map network.nameOf

/-- A reshaper can be built for exactly the accepted networks, whatever the registry, and it has one
launcher for every layer. -/
theorem build_accepts {network : Network} (h : network.Built) :
    (∀ registry, (∃ reshaper, (build network registry).outcome = .ok reshaper) ↔
      network.Accepted) ∧
    ∀ registry reshaper, (build network registry).outcome = .ok reshaper →
      reshaper.Complete network registry := by
  have hnetwork := h.wellFormed
  refine ⟨fun registry => exists_build_iff hnetwork, fun registry reshaper hbuild => ?_⟩
  obtain ⟨hmade, hlaunchers⟩ := build_eq_ok hnetwork hbuild
  refine ⟨?_, hmade.sorted, names_of_build hnetwork hbuild, ?_⟩
  · obtain ⟨order, launchers, -, -, -, rfl⟩ := (build_eq_ok_iff hnetwork).1 hbuild
    rfl
  · intro layer hmem
    obtain ⟨id, hlayer⟩ := List.mem_iff_getElem?.1 hmem
    obtain ⟨launcher, hget, -⟩ := hlaunchers hlayer
    exact ⟨launcher, hget, kind_of_starts hnetwork hbuild hlayer hget⟩

end Reshaper

namespace Network

/-- A memory cell that is read, an activation, and the cell that is written. -/
def recurrent : Network where
  name := "recurrent"
  layers := [⟨0, "last", "Memory", [], [⟨"out", [1, 4]⟩], .ofList [("index", " +1 ")], .empty, false⟩,
    ⟨1, "act", "ReLU", [⟨"in", [1, 4]⟩], [⟨"out", [1, 4]⟩], .empty, .empty, false⟩,
    ⟨2, "next", "memory", [⟨"in", [1, 4]⟩], [], .ofList [("index", "0")], .empty, false⟩]
  connections := [⟨⟨0, 0⟩, ⟨1, 0⟩⟩, ⟨⟨1, 0⟩, ⟨2, 0⟩⟩]
  names := ((Table.empty.insert "last" 0).insert "act" 1).insert "next" 2
  producers := (Table.empty.insert ⟨1, 0⟩ ⟨0, 0⟩).insert ⟨2, 0⟩ ⟨1, 0⟩
  consumers := (Table.empty.insert ⟨0, 0⟩ [⟨1, 0⟩]).insert ⟨1, 0⟩ [⟨2, 0⟩]

theorem built_recurrent : recurrent.Built := by
  have hlast := @Built.addLayer _ _ ⟨0, "last", "Memory", [], [⟨"out", [1, 4]⟩],
    .ofList [("index", " +1 ")], .empty, false⟩ 0 (.empty "recurrent") rfl
  have hact := @Built.addLayer _ _
    ⟨0, "act", "ReLU", [⟨"in", [1, 4]⟩], [⟨"out", [1, 4]⟩], .empty, .empty, false⟩ 1 hlast rfl
  have hnext := @Built.addLayer _ _
    ⟨0, "next", "memory", [⟨"in", [1, 4]⟩], [], .ofList [("index", "0")], .empty, false⟩ 2 hact rfl
  have hfirst := @Built.connectPorts _ _ ⟨0, 0⟩ ⟨1, 0⟩ hnext rfl
  exact @Built.connectPorts _ _ ⟨1, 0⟩ ⟨2, 0⟩ hfirst rfl

end Network

/-- A network around a memory cell is accepted with any registry, and a ring with none. -/
theorem Reshaper.recurrent_accepted_not_ring :
    (∀ registry, ∃ reshaper, (build .recurrent registry).outcome = .ok reshaper ∧
      reshaper.Complete .recurrent registry) ∧
    ∀ registry reshaper, (build .ring registry).outcome ≠ .ok reshaper := by
  have hbuilt : ∃ reshaper, (build .recurrent .empty).outcome = .ok reshaper := by
    have hbuild : (build .recurrent .empty).outcome.toOption.isSome = true := by decide +kernel
    obtain ⟨reshaper, hreshaper⟩ := Option.isSome_iff_exists.1 hbuild
    exact ⟨reshaper, toOption_eq_some_iff.1 hreshaper⟩
  have haccepted := ((build_accepts Network.built_recurrent).1 .empty).1 hbuilt
  constructor
  · intro registry
    obtain ⟨reshaper, hbuild⟩ := ((build_accepts Network.built_recurrent).1 registry).2 haccepted
    exact ⟨reshaper, hbuild, (build_accepts Network.built_recurrent).2 registry reshaper hbuild⟩
  · intro registry reshaper hbuild
    have hring := ((build_accepts Network.built_ring).1 registry).1 ⟨reshaper, hbuild⟩
    have hforth : Network.ring.Feeds 0 1 := ⟨⟨⟨0, 0⟩, ⟨1, 0⟩⟩, by decide, rfl, rfl⟩
    have hback : Network.ring.Feeds 1 0 := ⟨⟨⟨1, 0⟩, ⟨0, 0⟩⟩, by decide, rfl, rfl⟩
    exact hring.acyclic 0 ((Relation.TransGen.single hforth).tail hback)

end ShapeFlow
