import ShapeFlow.Proofs.Engine.Construction
import ShapeFlow.Proofs.Engine.Extension
import ShapeFlow.Proofs.Engine.RegistryHistory

/-!
Extensions of a reshaper. An extension exchanges launchers in their places, and the launchers it leaves
are those that are made from scratch with the extended registry: extending a reshaper and building it
anew come to the same. A refused extension changes nothing.
-/

namespace ShapeFlow

/-! ### Sets of launchers -/

namespace LauncherSet

/-- The set with every launcher exchanged in its place. -/
def map (change : Launcher → Launcher) (set : LauncherSet) : LauncherSet :=
  { set with launchers := set.launchers.map change }

theorem map_map (first second : Launcher → Launcher) (set : LauncherSet) :
    (set.map first).map second = set.map (second ∘ first) := by
  simp [map]

theorem map_id (set : LauncherSet) : set.map id = set := by
  simp [map]

section

variable {change : Launcher → Launcher} (hname : ∀ launcher, (change launcher).layerName = launcher.layerName)

include hname

theorem WellFormed.map {set : LauncherSet} (h : set.WellFormed) : (set.map change).WellFormed := by
  constructor
  intro name slot
  simp only [LauncherSet.map, h.index_iff, List.getElem?_map, Option.map_eq_some_iff]
  constructor
  · rintro ⟨launcher, hlauncher, rfl⟩
    exact ⟨change launcher, ⟨launcher, hlauncher, rfl⟩, hname launcher⟩
  · rintro ⟨-, ⟨launcher, hlauncher, rfl⟩, rfl⟩
    exact ⟨launcher, hlauncher, (hname launcher).symm⟩

theorem insert_map (set : LauncherSet) (launcher : Launcher) :
    (set.map change).insert (change launcher) = (set.insert launcher).map change := by
  simp only [insert, map, hname]
  cases set.index.get? launcher.layerName with
  | some slot => simp [List.map_set]
  | none => simp

theorem foldl_insert_map (launchers : List Launcher) (set : LauncherSet) :
    (launchers.map change).foldl insert (set.map change) =
      (launchers.foldl insert set).map change := by
  induction launchers generalizing set with
  | nil => rfl
  | cons launcher rest ih => rw [List.map_cons, List.foldl_cons, insert_map hname, ih, List.foldl_cons]

/-- Storing a changed launcher exchanges the launcher of its name. -/
theorem WellFormed.insert_change {set : LauncherSet} (h : set.WellFormed) {launcher : Launcher}
    (hmem : launcher ∈ set.launchers) (done : List String) :
    (set.map fun other => if other.layerName ∈ done then change other else other).insert
        (change launcher) =
      set.map fun other => if other.layerName ∈ done ++ [launcher.layerName] then change other
        else other := by
  obtain ⟨slot, hslot⟩ := List.mem_iff_getElem?.1 hmem
  have hindex : set.index.get? launcher.layerName = some slot := h.index_iff.2 ⟨launcher, hslot, rfl⟩
  simp only [LauncherSet.insert, LauncherSet.map, hname, hindex, LauncherSet.mk.injEq, and_true]
  apply List.ext_getElem?
  intro place
  rw [List.getElem?_set, List.length_map, List.getElem?_map, List.getElem?_map]
  by_cases heq : slot = place
  · subst heq
    obtain ⟨hlt, rfl⟩ := List.getElem?_eq_some_iff.1 hslot
    simp [hlt]
  · rw [if_neg heq]
    cases hother : set.launchers[place]? with
    | none => rfl
    | some other =>
      have hne : other.layerName ≠ launcher.layerName := by
        intro hsame
        have hplace := h.index_iff.2 ⟨other, hother, hsame⟩
        rw [hindex, Option.some.injEq] at hplace
        exact heq hplace
      simp [hne]

/-- Storing all launchers of a kind changed exchanges just these. -/
theorem WellFormed.foldl_insert_filter {set : LauncherSet} (h : set.WellFormed)
    (chosen : Launcher → Bool) :
    ((set.launchers.filter chosen).map change).foldl LauncherSet.insert set =
      set.map fun launcher => if chosen launcher then change launcher else launcher := by
  have hstored : (set.launchers.filter chosen).foldl (fun state launcher => state.insert (change launcher))
      set = set.map fun other =>
        if other.layerName ∈ (set.launchers.filter chosen).map Launcher.layerName then change other
        else other := by
    refine foldl_invariant (fun (done : List Launcher) (state : LauncherSet) => state =
      set.map fun other => if other.layerName ∈ done.map Launcher.layerName then change other
        else other) (by simp [LauncherSet.map]) ?_
    rintro done launcher rest state hitems rfl
    have hmem : launcher ∈ set.launchers :=
      (List.mem_filter.1 (hitems ▸ by simp : launcher ∈ set.launchers.filter chosen)).1
    rw [h.insert_change hname hmem, List.map_append, List.map_singleton]
  rw [List.foldl_map, hstored]
  simp only [LauncherSet.map, LauncherSet.mk.injEq, and_true, List.map_inj_left]
  intro launcher hmem
  have hchosen : launcher.layerName ∈ (set.launchers.filter chosen).map Launcher.layerName ↔
      chosen launcher = true := by
    constructor
    · intro hnamed
      obtain ⟨other, hother, hsame⟩ := List.mem_map.1 hnamed
      obtain ⟨hstored, hkind⟩ := List.mem_filter.1 hother
      have hget := h.get_of_mem hstored
      rw [hsame, h.get_of_mem hmem, Except.ok.injEq] at hget
      rwa [hget]
    · exact fun hkind => List.mem_map_of_mem (List.mem_filter.2 ⟨hmem, hkind⟩)
  simp only [hchosen]

end

end LauncherSet

/-! ### Launchers that take up an extension -/

namespace Launcher

@[simp] theorem layerName_rebind (launcher : Launcher) (rule : Rule) :
    (launcher.rebind rule).layerName = launcher.layerName := rfl

/-- The launcher with the rule of a type, if it is of that type. -/
def adopt (launcher : Launcher) (rule : String × Rule) : Launcher :=
  if launcher.hasType rule.1 then launcher.rebind rule.2 else launcher

theorem layerName_adopt (launcher : Launcher) (rule : String × Rule) :
    (launcher.adopt rule).layerName = launcher.layerName := by
  unfold adopt
  split <;> rfl

theorem foldl_adopt_of_not {launcher : Launcher} {rules : List (String × Rule)}
    (h : ∀ rule ∈ rules, launcher.hasType rule.1 = false) : rules.foldl adopt launcher = launcher := by
  induction rules with
  | nil => rfl
  | cons rule rest ih =>
    obtain ⟨hrule, hrest⟩ := List.forall_mem_cons.1 h
    rw [List.foldl_cons, adopt, hrule, if_neg Bool.false_ne_true, ih hrest]

end Launcher

/-- The launcher as the extension leaves it. -/
def Extension.adapt (extension : Extension) (launcher : Launcher) : Launcher :=
  extension.rules.foldl Launcher.adopt launcher

namespace Extension

variable {extension : Extension} {launcher : Launcher} {rule : String × Rule}

theorem layerName_adapt (extension : Extension) (launcher : Launcher) :
    (extension.adapt launcher).layerName = launcher.layerName :=
  foldl_invariant (fun _ (state : Launcher) => state.layerName = launcher.layerName) rfl
    fun _ rule _ state _ hstate => (state.layerName_adopt rule).trans hstate

/-- Of the rules of an extension at most one is for the type of a launcher. -/
theorem adapt_of_mem (hmem : rule ∈ extension.rules) (htype : launcher.hasType rule.1 = true) :
    extension.adapt launcher = launcher.rebind rule.2 := by
  obtain ⟨before, after, hrules⟩ := List.append_of_mem hmem
  have hdistinct := extension.pairwise_rules
  rw [hrules, List.pairwise_append, List.pairwise_cons] at hdistinct
  obtain ⟨-, ⟨hafter, -⟩, hbefore⟩ := hdistinct
  have hother : ∀ {other : String × Rule}, Caseless.eq rule.1 other.1 = false →
      launcher.hasType other.1 = false := by
    intro other hne
    by_contra hsame
    rw [Bool.not_eq_false] at hsame
    rw [Caseless.eq_trans (Caseless.eq_comm _ _ ▸ htype) hsame] at hne
    cases hne
  have hskipped : before.foldl Launcher.adopt launcher = launcher :=
    Launcher.foldl_adopt_of_not fun other hmem => hother <| by
      rw [Caseless.eq_comm]
      exact hbefore other hmem rule List.mem_cons_self
  have hkept : after.foldl Launcher.adopt (launcher.rebind rule.2) = launcher.rebind rule.2 :=
    Launcher.foldl_adopt_of_not fun other hmem => hother (hafter other hmem)
  rw [adapt, hrules, List.foldl_append, hskipped, List.foldl_cons, Launcher.adopt, if_pos htype, hkept]

end Extension

/-! ### Extending a reshaper -/

namespace Reshaper

variable {reshaper : Reshaper} {extension : Extension}

/-- The reshaper with a rule for all its launchers of a type. -/
def rebound (reshaper : Reshaper) (rule : String × Rule) : Reshaper :=
  { reshaper with launchers := ((reshaper.launchers.launchers.filter (·.hasType rule.1)).map
      (·.rebind rule.2)).foldl LauncherSet.insert reshaper.launchers }

private theorem foldlM_insert (launchers : List Launcher) (reshaper : Reshaper) :
    launchers.foldlM (fun reshaper launcher =>
        (.ok { reshaper with launchers := reshaper.launchers.insert launcher } :
          Except EngineError Reshaper)) reshaper =
      .ok { reshaper with launchers := launchers.foldl LauncherSet.insert reshaper.launchers } := by
  induction launchers generalizing reshaper with
  | nil => rfl
  | cons launcher rest ih => rw [List.foldlM_cons, ok_bind, ih, List.foldl_cons]

theorem outcome_rebindType (reshaper : Reshaper) (typeName : String) :
    (reshaper.rebindType typeName).outcome =
      (fun rule => reshaper.rebound (typeName, rule)) <$> reshaper.registry.lookup typeName := by
  rw [rebindType, Journal.outcome_bind, Journal.outcome_lift]
  cases reshaper.registry.lookup typeName with
  | error cause => rfl
  | ok rule =>
    simp only [ok_bind, Journal.outcome_foldlM, Journal.outcome_bind, Journal.outcome_note,
      Journal.outcome_pure, foldlM_insert]
    rfl

/-- Types that are registered are given their rules one after the other. -/
theorem foldlM_rebindType {rules : List (String × Rule)}
    (h : ∀ rule ∈ rules, reshaper.registry.get? rule.1 = some rule.2) :
    (rules.map Prod.fst).foldlM (fun reshaper typeName => (rebindType reshaper typeName).outcome)
      reshaper = .ok (rules.foldl rebound reshaper) := by
  induction rules generalizing reshaper with
  | nil => rfl
  | cons rule rest ih =>
    obtain ⟨hrule, hrest⟩ := List.forall_mem_cons.1 h
    rw [List.map_cons, List.foldlM_cons, outcome_rebindType, Registry.lookup_eq_ok_iff.2 hrule, map_ok,
      ok_bind, List.foldl_cons]
    exact ih hrest

/-- An extension is accepted if the registry accepts it. -/
theorem outcome_addExtension (reshaper : Reshaper) (extension : Extension) :
    (reshaper.addExtension extension).outcome =
      (fun added => extension.rules.foldl rebound { reshaper with registry := added.2 }) <$>
        (reshaper.registry.addExtension extension).outcome := by
  rw [addExtension, Journal.outcome_bind]
  cases hadd : (reshaper.registry.addExtension extension).outcome with
  | error cause => rfl
  | ok added =>
    obtain ⟨types, extended⟩ := added
    obtain ⟨hconflicts, hlacking, rfl, rfl⟩ := Registry.addExtension_eq_ok_iff.1 hadd
    rw [ok_bind, map_ok, Journal.outcome_foldlM, ← Extension.map_fst_rules hlacking]
    exact foldlM_rebindType fun rule hrule =>
      Registry.get?_extend_of_mem hconflicts hrule (Caseless.eq_refl rule.1)

/-- The launchers of a type keep their places when they are given a rule. -/
theorem rebound_eq (h : reshaper.launchers.WellFormed) (rule : String × Rule) :
    reshaper.rebound rule =
      { reshaper with launchers := reshaper.launchers.map (·.adopt rule) } := by
  rw [rebound, h.foldl_insert_filter (fun launcher => launcher.layerName_rebind rule.2)]
  rfl

theorem foldl_rebound (h : reshaper.launchers.WellFormed) (rules : List (String × Rule)) :
    rules.foldl rebound reshaper =
      { reshaper with launchers := reshaper.launchers.map (rules.foldl Launcher.adopt ·) } := by
  induction rules generalizing reshaper with
  | nil => exact congrArg (fun launchers => { reshaper with launchers }) reshaper.launchers.map_id.symm
  | cons rule rest ih =>
    have hmap : (reshaper.launchers.map (·.adopt rule)).WellFormed :=
      h.map fun launcher => launcher.layerName_adopt rule
    rw [List.foldl_cons, rebound_eq h, ih hmap, LauncherSet.map_map]
    rfl

/-! ### Extending a reshaper in place -/

/-- A call on a reshaper in place. What it has written stays written if it is refused later on. -/
abbrev Call := InPlace EngineError Reshaper

namespace Call

/-- A call on the registry of the reshaper. -/
def onRegistry {α : Type} (call : Registry.Call α) : Call α := fun reshaper =>
  match call.run reshaper.registry with
  | .ok value registry => .ok value { reshaper with registry }
  | .error cause registry => .error cause { reshaper with registry }

theorem run_onRegistry {α : Type} (call : Registry.Call α) (reshaper : Reshaper) :
    (onRegistry call).run reshaper = match call.run reshaper.registry with
      | .ok value registry => .ok value { reshaper with registry }
      | .error cause registry => .error cause { reshaper with registry } := rfl

def store : List Launcher → Call Unit
  | [] => return
  | launcher :: rest => do
    modify fun reshaper => { reshaper with launchers := reshaper.launchers.insert launcher }
    store rest

def rebindType (typeName : String) : Call Unit := do
  match (← get).registry.lookup typeName with
  | .error cause => throw cause
  | .ok rule =>
    store (((← get).launchers.launchers.filter (·.hasType typeName)).map (·.rebind rule))

def rebindTypes : List String → Call Unit
  | [] => return
  | typeName :: rest => do
    rebindType typeName
    rebindTypes rest

def addExtension (extension : Extension) : Call Unit := do
  rebindTypes (← onRegistry (Registry.Call.addExtension extension))

theorem run_store (launchers : List Launcher) (reshaper : Reshaper) :
    (store launchers).run reshaper =
      .ok () { reshaper with launchers := launchers.foldl LauncherSet.insert reshaper.launchers } := by
  induction launchers generalizing reshaper with
  | nil => rfl
  | cons launcher rest ih =>
    rw [store, EStateM.run_bind, EStateM.run_modify]
    exact ih _

theorem run_rebindType {rule : String × Rule} (h : reshaper.registry.get? rule.1 = some rule.2) :
    (rebindType rule.1).run reshaper = .ok () (reshaper.rebound rule) := by
  simp only [rebindType, EStateM.run_bind, EStateM.run_get, Registry.lookup_eq_ok_iff.2 h, run_store]
  rfl

theorem run_rebindTypes {rules : List (String × Rule)}
    (h : ∀ rule ∈ rules, reshaper.registry.get? rule.1 = some rule.2) :
    (rebindTypes (rules.map Prod.fst)).run reshaper = .ok () (rules.foldl rebound reshaper) := by
  induction rules generalizing reshaper with
  | nil => rfl
  | cons rule rest ih =>
    obtain ⟨hrule, hrest⟩ := List.forall_mem_cons.1 h
    rw [List.map_cons, rebindTypes, EStateM.run_bind, run_rebindType hrule]
    exact ih hrest

/-- Once the registry has accepted an extension no look-up of its types fails, so that nothing is left
half done. -/
theorem run_addExtension (reshaper : Reshaper) (extension : Extension) :
    (addExtension extension).run reshaper =
      settle reshaper (((), ·) <$> (reshaper.addExtension extension).outcome) := by
  rw [outcome_addExtension, addExtension, EStateM.run_bind, run_onRegistry,
    Registry.Call.run_addExtension]
  cases hadd : (reshaper.registry.addExtension extension).outcome with
  | error cause => rfl
  | ok added =>
    obtain ⟨types, extended⟩ := added
    obtain ⟨hconflicts, hlacking, rfl, rfl⟩ := Registry.addExtension_eq_ok_iff.1 hadd
    simp only [settle, map_ok, ← Extension.map_fst_rules hlacking]
    exact run_rebindTypes fun rule hrule =>
      Registry.get?_extend_of_mem hconflicts hrule (Caseless.eq_refl rule.1)

end Call

end Reshaper

/-! ### Launchers made with the extended registry -/

theorem Launcher.hasType_ofLayer {layer : Layer} {network : Network} {kind : LauncherKind}
    {launcher : Launcher} (h : ofLayer layer network kind = .ok launcher) (typeName : String) :
    launcher.hasType typeName = Caseless.eq layer.typeName typeName := by
  obtain ⟨sources, -, h⟩ := bind_eq_ok_iff.1 h
  cases h
  rfl

/-- A launcher made with a rule is one made without that is given the rule. -/
theorem Launcher.ofLayer_ordinary (layer : Layer) (network : Network) (rule : Rule) :
    ofLayer layer network (.ordinary rule) = (·.rebind rule) <$> ofLayer layer network .passThrough := by
  unfold ofLayer
  cases EngineError.ofNetwork (resolveSources layer network) with
  | error cause => rfl
  | ok sources => simp [Launcher.rebind, Launcher.reset, declare]

theorem Layer.outcome_interiorKind (layer : Layer) (registry : Registry) :
    (layer.interiorKind registry).outcome = (fun side =>
      match registry.get? layer.typeName with
      | some rule => if side = some .write then .memoryOutput else .ordinary rule
      | none => .passThrough) <$> layer.checkInterior := by
  rw [interiorKind, Journal.outcome_bind, Journal.outcome_lift]
  cases layer.checkInterior with
  | error cause => rfl
  | ok side => cases registry.get? layer.typeName <;> rfl

/-- The types that decide the role of a layer in the graph, whatever is registered for them. -/
def roleTypes : List String :=
  ["input", "const", "memory"]

/-- The extension brings no rule for a type that stands for a role. -/
def Extension.Plain (extension : Extension) : Prop :=
  ∀ typeName ∈ extension.types, ∀ role ∈ roleTypes, Caseless.eq typeName role = false

instance (extension : Extension) : Decidable extension.Plain :=
  inferInstanceAs (Decidable (∀ typeName ∈ extension.types, ∀ role ∈ roleTypes,
    Caseless.eq typeName role = false))

namespace Extension

variable {extension : Extension} {layer : Layer} {network : Network} {registry : Registry}
  {inputs : List LayerId} {launcher : Launcher} {rule : String × Rule}

/-- A launcher is kept if the extension is for types other than that of its layer. -/
theorem adapt_of_ofLayer {kind : LauncherKind}
    (hnone : ∀ rule ∈ extension.rules, Caseless.eq layer.typeName rule.1 = false)
    (hmade : Launcher.ofLayer layer network kind = .ok launcher) :
    extension.adapt launcher = launcher := by
  refine Launcher.foldl_adopt_of_not fun rule hmem => ?_
  rw [Launcher.hasType_ofLayer hmade, hnone rule hmem]

theorem outcome_interiorLauncher_of_not_mem
    (hnone : ∀ rule ∈ extension.rules, Caseless.eq layer.typeName rule.1 = false) :
    (layer.interiorLauncher network (registry.extend extension)).outcome =
      extension.adapt <$> (layer.interiorLauncher network registry).outcome := by
  have hget : (registry.extend extension).get? layer.typeName = registry.get? layer.typeName :=
    Registry.get?_extend_of_not_mem fun rule hmem => Caseless.eq_comm _ _ ▸ hnone rule hmem
  simp only [Layer.interiorLauncher, Journal.outcome_bind, Journal.outcome_lift,
    Layer.outcome_interiorKind, hget]
  refine (map_eq_self fun launcher hmade => ?_).symm
  obtain ⟨kind, -, hmade⟩ := bind_eq_ok_iff.1 hmade
  exact adapt_of_ofLayer hnone hmade

namespace Plain

/-- A layer of a type that a plain extension is for can have any place in the graph. -/
theorem no_role (h : extension.Plain) (hmem : rule ∈ extension.rules)
    (htype : Caseless.eq layer.typeName rule.1 = true) :
    layer.isType "input" = false ∧ layer.isType "const" = false ∧ layer.isType "memory" = false := by
  have htypes : rule.1 ∈ extension.types := mem_of_mem_firstSpellings (mem_rules_iff.1 hmem).1
  have hrole : ∀ role ∈ roleTypes, layer.isType role = false := by
    intro role hrole
    by_contra hsame
    rw [Bool.not_eq_false] at hsame
    have hne := h rule.1 htypes role hrole
    rw [Caseless.eq_trans (Caseless.eq_comm _ _ ▸ htype) hsame] at hne
    cases hne
  exact ⟨hrole _ (by decide), hrole _ (by decide), hrole _ (by decide)⟩

theorem adapt_of_inputLauncher (h : extension.Plain)
    (hmade : layer.inputLauncher network = .ok launcher) : extension.adapt launcher = launcher := by
  obtain ⟨kind, hkind, hmade⟩ := bind_eq_ok_iff.1 hmade
  refine adapt_of_ofLayer (fun rule hmem => ?_) hmade
  by_contra htype
  rw [Bool.not_eq_false] at htype
  obtain ⟨hinput, hconst, hmemory⟩ := h.no_role hmem htype
  rcases Layer.inputKind_cases hkind with ⟨-, ⟨hsome, -⟩ | ⟨-, hsome⟩⟩ | ⟨-, hsome⟩
  · rw [hmemory] at hsome
    cases hsome
  · rw [hinput] at hsome
    cases hsome
  · rw [hconst] at hsome
    cases hsome

/-- What a registry has no rule for is passed through until an extension brings the rule. -/
theorem outcome_interiorLauncher_of_mem (h : extension.Plain)
    (hconflicts : registry.conflicts extension = []) (hmem : rule ∈ extension.rules)
    (htype : Caseless.eq layer.typeName rule.1 = true) :
    (layer.interiorLauncher network (registry.extend extension)).outcome =
      extension.adapt <$> (layer.interiorLauncher network registry).outcome := by
  have hbefore : registry.get? layer.typeName = none := by
    have hfresh := Registry.not_contains_of_conflicts hconflicts (mem_rules_iff.1 hmem).1
    rw [Registry.contains, Table.contains_eq, Option.isSome_eq_false_iff,
      Option.isNone_iff_eq_none] at hfresh
    rw [registry.get?_congr htype]
    exact hfresh
  have hafter : (registry.extend extension).get? layer.typeName = some rule.2 :=
    Registry.get?_extend_of_mem hconflicts hmem (Caseless.eq_comm _ _ ▸ htype)
  have hside : layer.checkInterior = .ok none := by
    obtain ⟨hinput, hconst, hmemory⟩ := h.no_role hmem htype
    simp [Layer.checkInterior, hinput, hconst, hmemory]
  simp only [Layer.interiorLauncher, Journal.outcome_bind, Journal.outcome_lift,
    Layer.outcome_interiorKind, hbefore, hafter, hside, map_ok, ok_bind, reduceCtorEq, if_false,
    Launcher.ofLayer_ordinary]
  cases hmade : Launcher.ofLayer layer network .passThrough with
  | error cause => rfl
  | ok launcher =>
    have hlauncher : launcher.hasType rule.1 = true := by
      rw [Launcher.hasType_ofLayer hmade, htype]
    rw [map_ok, map_ok, adapt_of_mem hmem hlauncher]

theorem outcome_interiorLauncher (h : extension.Plain) (hconflicts : registry.conflicts extension = []) :
    (layer.interiorLauncher network (registry.extend extension)).outcome =
      extension.adapt <$> (layer.interiorLauncher network registry).outcome := by
  by_cases hmatch : ∃ rule ∈ extension.rules, Caseless.eq layer.typeName rule.1 = true
  · obtain ⟨rule, hmem, htype⟩ := hmatch
    exact h.outcome_interiorLauncher_of_mem hconflicts hmem htype
  · exact outcome_interiorLauncher_of_not_mem (by simpa using hmatch)

theorem outcome_launcherFor (h : extension.Plain) (hconflicts : registry.conflicts extension = [])
    (id : LayerId) : (Reshaper.launcherFor network (registry.extend extension) inputs id).outcome =
      extension.adapt <$> (Reshaper.launcherFor network registry inputs id).outcome := by
  simp only [Reshaper.launcherFor, Journal.outcome_bind, Journal.outcome_lift]
  cases EngineError.ofNetwork (network.layer id) with
  | error cause => rfl
  | ok layer =>
    rw [ok_bind, ok_bind]
    split
    · exact (map_eq_self fun launcher => h.adapt_of_inputLauncher).symm
    · exact h.outcome_interiorLauncher hconflicts

/-- A reshaper that is built with the extended registry is the one built without, with its launchers
exchanged in their places. -/
theorem outcome_build (h : extension.Plain) (hnetwork : network.WellFormed)
    (hconflicts : registry.conflicts extension = []) :
    (Reshaper.build network (registry.extend extension)).outcome =
      (fun reshaper : Reshaper => { reshaper with
        registry := registry.extend extension
        launchers := reshaper.launchers.map extension.adapt }) <$>
          (Reshaper.build network registry).outcome := by
  have hassemble : ∀ launchers : List Launcher, Reshaper.assemble network (registry.extend extension)
      (launchers.map extension.adapt) = { Reshaper.assemble network registry launchers with
        registry := registry.extend extension
        launchers := (Reshaper.assemble network registry launchers).launchers.map extension.adapt } := by
    intro launchers
    have hset : (launchers.map extension.adapt).foldl LauncherSet.insert .empty =
        (launchers.foldl LauncherSet.insert .empty).map extension.adapt :=
      LauncherSet.foldl_insert_map extension.layerName_adapt launchers .empty
    simp only [Reshaper.assemble, hset, List.map_map, Function.comp_def, extension.layerName_adapt]
  rw [Reshaper.outcome_build hnetwork, Reshaper.outcome_build hnetwork]
  cases Reshaper.plan network with
  | error cause => rfl
  | ok order =>
    simp only [ok_bind, h.outcome_launcherFor hconflicts, mapM_map_eq]
    cases order.mapM fun id =>
        (Reshaper.launcherFor network registry network.inputLayers id).outcome with
    | error cause => rfl
    | ok launchers => simp only [map_ok, hassemble]

end Plain

end Extension

/-! ### Extending is building anew -/

/-- A reshaper that takes up an extension becomes the one that is built with the extended registry, and
neither can be built unless the other can. A refused extension leaves a reshaper as it was. -/
theorem Reshaper.addExtension_eq_build {network : Network} (hnetwork : network.Built)
    {registry extended : Registry} {extension : Extension} {types : List String}
    (hplain : extension.Plain)
    (hadd : (registry.addExtension extension).outcome = .ok (types, extended)) :
    Alike (fun reshaper rebuilt => (reshaper.addExtension extension).outcome = .ok rebuilt ∧
        (Call.addExtension extension).run reshaper = .ok () rebuilt)
      (build network registry).outcome (build network extended).outcome ∧
    ∀ (reshaper : Reshaper) (other : Extension) (cause : EngineError) (left : Reshaper),
      (Call.addExtension other).run reshaper = .error cause left → left = reshaper := by
  constructor
  · obtain ⟨hconflicts, -, -, rfl⟩ := Registry.addExtension_eq_ok_iff.1 hadd
    rw [hplain.outcome_build hnetwork.wellFormed hconflicts]
    cases hbuild : (build network registry).outcome with
    | error cause => exact .inr ⟨cause, rfl, rfl⟩
    | ok reshaper =>
      have hregistry : reshaper.registry = registry := by
        obtain ⟨_, _, -, -, -, rfl⟩ := (build_eq_ok_iff hnetwork.wellFormed).1 hbuild
        rfl
      have hset : ({ reshaper with registry := registry.extend extension } : Reshaper).launchers.WellFormed :=
        (build_eq_ok hnetwork.wellFormed hbuild).1.launchers.wellFormed
      have hextended : (reshaper.addExtension extension).outcome = .ok { reshaper with
          registry := registry.extend extension
          launchers := reshaper.launchers.map extension.adapt } := by
        rw [outcome_addExtension, hregistry, hadd, map_ok]
        exact congrArg Except.ok (foldl_rebound hset extension.rules)
      refine .inl ⟨reshaper, _, rfl, rfl, hextended, ?_⟩
      rw [Call.run_addExtension, hextended]
      rfl
  · intro reshaper other cause left hrun
    rw [Call.run_addExtension, settle_eq_error_iff] at hrun
    exact hrun.2.symm

/-- A type that is listed in two spellings, and was passed through before. -/
def sampleExtension : Extension :=
  ⟨["relu", "RELU"], fun _ => some Rule.identity⟩

theorem Reshaper.sample_addExtension_eq_build :
    (build .sample .empty).outcome.toOption.isSome = true ∧
    Alike (fun reshaper rebuilt => (reshaper.addExtension sampleExtension).outcome = .ok rebuilt ∧
        (Call.addExtension sampleExtension).run reshaper = .ok () rebuilt)
      (build .sample .empty).outcome (build .sample (Registry.empty.extend sampleExtension)).outcome ∧
    ∀ (reshaper : Reshaper) (other : Extension) (cause : EngineError) (left : Reshaper),
      (Call.addExtension other).run reshaper = .error cause left → left = reshaper := by
  have hplain : sampleExtension.Plain := by decide +kernel
  have hadd : (Registry.empty.addExtension sampleExtension).outcome =
      .ok (["relu"], Registry.empty.extend sampleExtension) :=
    Registry.addExtension_eq_ok_iff.2 ⟨by decide +kernel, by decide +kernel, by decide +kernel, rfl⟩
  exact ⟨by decide +kernel, addExtension_eq_build Network.built_sample hplain hadd⟩

end ShapeFlow
