import ShapeFlow.Proofs.Engine.FixedPoint
import ShapeFlow.Proofs.Engine.Solution
import ShapeFlow.Proofs.Network.Reordered

/-!
Runs do not depend on the order in which a network was put together. What solves the equations of a
network solves those of a reordered one, whatever order the layers are done in; and the loop of a
reshaper, which may do them in another order too, finds the same launchers by name.
-/

namespace ShapeFlow

open Network (Reordered)

/-! ### What does not depend on the place of a layer -/

namespace Layer

variable {left right : Layer}

theorem inputKind_of_unplaced (h : right.unplaced = left.unplaced) :
    right.inputKind = left.inputKind := by
  rw [eq_replaced_of_unplaced h]
  rfl

theorem outcome_interiorKind_of_unplaced (h : right.unplaced = left.unplaced) (registry : Registry) :
    (right.interiorKind registry).outcome = (left.interiorKind registry).outcome := by
  rw [eq_replaced_of_unplaced h]
  rfl

theorem unplaced_of_skeleton {left' right' : Layer} (h : right.unplaced = left.unplaced)
    (hleft : left'.skeleton = left.skeleton) (hright : right'.skeleton = right.skeleton)
    (hinputs : right'.inputShapes = left'.inputShapes)
    (houtputs : right'.outputShapes = left'.outputShapes) : right'.unplaced = left'.unplaced := by
  refine eq_of_skeleton ?_ hinputs houtputs
  calc right'.unplaced.skeleton = right'.skeleton.unplaced := rfl
    _ = right.unplaced.skeleton := congrArg unplaced hright
    _ = left.skeleton.unplaced := congrArg skeleton h
    _ = left'.unplaced.skeleton := (congrArg unplaced hleft).symm

end Layer

namespace Launcher

variable {left right : Layer} {launcher : Launcher}

theorem ofLayer_of_unplaced {a b : Network} (ha : a.WellFormed) (hb : b.WellFormed)
    (h : right.unplaced = left.unplaced) (hsources : a.sourcesOf left = b.sourcesOf right)
    (kind : LauncherKind) : ofLayer right b kind = ofLayer left a kind := by
  simp only [ofLayer, resolveSources_eq ha, resolveSources_eq hb, hsources]
  rw [Layer.eq_replaced_of_unplaced h]
  rfl

/-- A launcher writes the same shapes to layers that differ in their places. -/
theorem applyChanges_of_unplaced {left' : Layer} (h : right.unplaced = left.unplaced)
    (hchanged : launcher.applyChanges left = .ok left') :
    ∃ right', launcher.applyChanges right = .ok right' ∧ right'.unplaced = left'.unplaced := by
  refine ⟨{ left' with id := right.id }, ?_, rfl⟩
  rw [Layer.eq_replaced_of_unplaced h, applyChanges_eq_ok_iff]
  have hchanged := applyChanges_eq_ok_iff.1 hchanged
  split at hchanged
  · rw [hchanged]
  · obtain ⟨hname, hlength, shapes, houtputs, rfl⟩ := hchanged
    exact ⟨hname, hlength, shapes, houtputs, rfl⟩

end Launcher

/-! ### Solutions -/

namespace Propagator

variable {a b : Network} {registry : Registry} {overrides : Overrides}
  {outputs : String → List Shape}

theorem arriving_of_unplaced {left right : Layer} (h : right.unplaced = left.unplaced)
    (hsources : a.sourcesOf left = b.sourcesOf right) :
    arriving b outputs right = arriving a outputs left := by
  have hshapes : right.inputShapes = left.inputShapes := by
    rw [Layer.eq_replaced_of_unplaced h]
    rfl
  rw [arriving, arriving, hsources, hshapes]

/-- The equations of a layer name no ids, so that reordered networks have the same solutions. -/
theorem Solves.of_reordered (h : a.Reordered b) (ha : a.WellFormed) (hb : b.WellFormed)
    (hsolves : Solves a registry overrides outputs) : Solves b registry overrides outputs := by
  have hcounterpart : ∀ right ∈ b.layers, ∃ left ∈ a.layers, right.unplaced = left.unplaced ∧
      arriving b outputs right = arriving a outputs left := by
    intro right hmem
    obtain ⟨j, hright⟩ := List.mem_iff_getElem?.1 hmem
    obtain ⟨i, left, hleft, hsame⟩ := h.symm.exists_layer hright
    exact ⟨left, List.mem_of_getElem? hleft, hsame.symm,
      arriving_of_unplaced hsame.symm (h.sourcesOf_eq ha hb hleft hright hsame.symm)⟩
  constructor
  · intro right hmem
    obtain ⟨left, hleft, hsame, -⟩ := hcounterpart right hmem
    rw [Layer.eq_replaced_of_unplaced hsame]
    exact hsolves.accepts left hleft
  · intro right hmem
    obtain ⟨left, hleft, hsame, harriving⟩ := hcounterpart right hmem
    rw [harriving, Layer.eq_replaced_of_unplaced hsame]
    exact hsolves.inferred left hleft

/-- A propagation over a reordered network is accepted too, and writes the same shapes. -/
theorem reordered_of_transactional (h : a.Reordered b) (ha : a.WellFormed) (hb : b.WellFormed)
    (hrun : (a.inferShapes registry ⟨.transactional, overrides⟩).journal.outcome = .ok ()) :
    (b.inferShapes registry ⟨.transactional, overrides⟩).journal.outcome = .ok () ∧
      (a.inferShapes registry ⟨.transactional, overrides⟩).network.Reordered
        (b.inferShapes registry ⟨.transactional, overrides⟩).network := by
  obtain ⟨⟨order, horder⟩, outputs, hsolves⟩ := Network.exists_solution_of_inferShapes ha hrun
  obtain ⟨order', horder'⟩ := h.exists_order ha hb ⟨order, horder⟩
  obtain ⟨a', -, ha', hleft, hsnapshot⟩ := Network.inferShapes_of_solves ha horder hsolves
  obtain ⟨b', hdone, hb', hright, hsnapshot'⟩ :=
    Network.inferShapes_of_solves hb horder' (hsolves.of_reordered h ha hb)
  refine ⟨hdone, ?_⟩
  rw [ha', hb']
  refine h.of_skeleton hleft hright fun {i j left right left' right'} hi hj hsame hi' hj' => ?_
  obtain ⟨layer, hlayer, hskeleton⟩ := Network.exists_layer_of_skeleton hleft hi'
  obtain ⟨layer', hlayer', hskeleton'⟩ := Network.exists_layer_of_skeleton hright hj'
  rw [hi, Option.some.injEq] at hlayer
  rw [hj, Option.some.injEq] at hlayer'
  subst hlayer hlayer'
  obtain ⟨hinputs, houtputs⟩ := ofLayer_of_snapshot hsnapshot hi hi'
  obtain ⟨hinputs', houtputs'⟩ := ofLayer_of_snapshot hsnapshot' hj hj'
  refine Layer.unplaced_of_skeleton hsame hskeleton.symm hskeleton'.symm ?_ ?_
  · rw [hinputs, hinputs', arriving_of_unplaced hsame (h.sourcesOf_eq ha hb hi hj hsame)]
  · rw [houtputs, houtputs', Layer.name_of_unplaced hsame]

end Propagator

/-! ### Reshapers -/

namespace Reshaper

section

variable {network : Network} {reshaper : Reshaper} {overrides : Overrides} {seeded goal : LauncherSet}

/-- The set holds what a reshape makes of the launcher that the layer starts with. -/
def Computed (seeded goal : LauncherSet) (name : String) : Prop :=
  ∃ start inputs final, seeded.get name = .ok start ∧ start.inputShapes goal = .ok inputs ∧
    start.reshape inputs = .ok final ∧ goal.get name = .ok final

/-- The step of a layer comes upon the launcher of a set in which all are computed, if those before
it have. -/
theorem Pulled.follow {set : LauncherSet} (hnetwork : network.WellFormed)
    (hmade : reshaper.MadeFor network)
    (hseeded : Seeded reshaper overrides reshaper.inputLayers seeded) {order done rest : List LayerId}
    {id : LayerId} (horder : network.topologicalOrder = .ok order) (hsplit : order = done ++ id :: rest)
    (hgoal : Computed seeded goal (network.nameOf id))
    (h : Pulled seeded (done.map network.nameOf) set)
    (hdone : ∀ name ∈ done.map network.nameOf, set.get name = goal.get name) :
    ∃ next, (Reshaper.step network set (network.nameOf id, id)).outcome = .ok next ∧
      Pulled seeded ((done ++ [id]).map network.nameOf) next ∧
        ∀ name ∈ (done ++ [id]).map network.nameOf, next.get name = goal.get name := by
  obtain ⟨layer, hlayer⟩ := (hnetwork.sorts horder).exists_layer (by simp [hsplit] : id ∈ order)
  obtain ⟨start, inputs, final, hstart, hinputs, hfinal, hfound⟩ := hgoal
  have hsorted := hmade.sortedLayers_eq horder
  rw [hsplit, List.map_append, List.map_cons] at hsorted
  have hfresh : network.nameOf id ∉ done.map network.nameOf := hmade.not_mem_done hnetwork hsorted
  have hget : set.get (network.nameOf id) = .ok start := by rw [h.pending hfresh, hstart]
  have hread : start.inputShapes set = .ok inputs := by
    rw [← hinputs]
    refine Launcher.inputShapes_congr fun source hsource => hdone _ ?_
    exact sources_closed hnetwork hmade hseeded.reset_eq hsorted (by simp) hstart hsource
  have hnext : set.reshape (network.nameOf id) = .ok (set.insert final) :=
    LauncherSet.reshape_eq_ok_iff.2 ⟨start, inputs, final, hget, hread, hfinal, rfl⟩
  have hname : final.layerName = network.nameOf id :=
    (Launcher.layerName_of_reshape hfinal).trans (h.wellFormed.layerName_eq hget)
  rw [List.map_append, List.map_singleton]
  refine ⟨set.insert final, ?_,
    h.step hnetwork hmade hseeded.reset_eq hsorted hnext, fun name hmem => ?_⟩
  · rw [outcome_step h.wellFormed hlayer, hnext]
  · rw [h.wellFormed.get_insert, hname]
    split
    · next heq => rw [heq, hfound]
    · next hne =>
      rw [List.mem_append, List.mem_singleton] at hmem
      exact hdone name (hmem.resolve_right hne)

/-- The loop comes upon the launchers of any set in which all are computed. -/
theorem exists_loop_of_computed (hnetwork : network.WellFormed) (hmade : reshaper.MadeFor network)
    (hseeded : Seeded reshaper overrides reshaper.inputLayers seeded) {order : List LayerId}
    (horder : network.topologicalOrder = .ok order)
    (hgoal : ∀ id ∈ order, Computed seeded goal (network.nameOf id)) :
    ∃ set, order.foldlM (fun set id => (step network set (network.nameOf id, id)).outcome) seeded =
        .ok set ∧ ∀ id ∈ order, set.get (network.nameOf id) = goal.get (network.nameOf id) := by
  obtain ⟨set, hloop, -, hset⟩ := foldlM_total (fun done set =>
      Pulled seeded (done.map network.nameOf) set ∧
        ∀ name ∈ done.map network.nameOf, set.get name = goal.get name)
    ⟨.start hseeded.wellFormed, by simp⟩ fun done id rest set hsplit ⟨hpulled, hdone⟩ =>
      hpulled.follow hnetwork hmade hseeded horder hsplit (hgoal id (by simp [hsplit])) hdone
  exact ⟨set, hloop, fun id hid => hset _ (List.mem_map_of_mem hid)⟩

/-- A layer of the network that a reshaper was made for is matched with its own launcher. -/
theorem Located.mem_of_layer {located : List (String × LayerId)} (hnetwork : network.WellFormed)
    (hmade : reshaper.MadeFor network) (h : Located reshaper network located) {id : LayerId}
    {layer : Layer} (hlayer : network.layers[id]? = some layer) : (layer.name, id) ∈ located := by
  obtain ⟨id', found, hentry, hfound, hmatches⟩ := h.exists_found hnetwork hnetwork hmade hlayer
  have heq : id' = id := hnetwork.id_eq_of_name_eq hfound hlayer hmatches.name_eq
  rwa [heq] at hentry

end

section

variable {a b : Network} {registry : Registry} {overrides : Overrides} {reshaper other : Reshaper}
  {i j : LayerId} {left right : Layer} {launcher : Launcher}

variable (h : a.Reordered b) (ha : a.WellFormed) (hb : b.WellFormed)

include h ha hb

theorem outcome_launcherFor_of_reordered (hleft : a.layers[i]? = some left)
    (hright : b.layers[j]? = some right) (hsame : right.unplaced = left.unplaced) :
    (launcherFor b registry b.inputLayers j).outcome =
      (launcherFor a registry a.inputLayers i).outcome := by
  have hsources := h.sourcesOf_eq ha hb hleft hright hsame
  have hmade : Launcher.ofLayer right b = Launcher.ofLayer left a :=
    funext (Launcher.ofLayer_of_unplaced ha hb hsame hsources)
  have hinput := h.mem_inputLayers_iff ha hb hleft hright hsame
  simp only [launcherFor, Journal.outcome_bind, Journal.outcome_lift,
    Network.layer_eq_ok_iff.2 hleft, Network.layer_eq_ok_iff.2 hright, EngineError.ofNetwork, ok_bind]
  by_cases hmem : i ∈ a.inputLayers
  · rw [if_pos hmem, if_pos (hinput.1 hmem)]
    simp only [Layer.inputLauncher, Layer.inputKind_of_unplaced hsame, hmade]
  · rw [if_neg hmem, if_neg fun hmem' => hmem (hinput.2 hmem')]
    simp only [Layer.interiorLauncher, Journal.outcome_bind,
      Layer.outcome_interiorKind_of_unplaced hsame, hmade]

theorem exists_build_of_reordered (hbuild : (build a registry).outcome = .ok reshaper) :
    ∃ other, (build b registry).outcome = .ok other := by
  obtain ⟨order, -, horder, hinputs, -, -⟩ := (build_eq_ok_iff ha).1 hbuild
  obtain ⟨order', horder'⟩ := h.exists_order ha hb ⟨order, horder⟩
  refine exists_build_of_launchers hb horder' (h.exists_inputLayer ha hb hinputs)
    fun {j right} hright => ?_
  obtain ⟨i, left, hleft, hsame⟩ := h.symm.exists_layer hright
  obtain ⟨launcher, -, hmade⟩ := (build_eq_ok ha hbuild).2 hleft
  exact ⟨launcher, (outcome_launcherFor_of_reordered h ha hb hleft hright hsame.symm).trans hmade⟩

/-- Reshapers of reordered networks have the same launchers by name. -/
theorem get_of_builds (hbuild : (build a registry).outcome = .ok reshaper)
    (hother : (build b registry).outcome = .ok other) (hleft : a.layers[i]? = some left)
    (hright : b.layers[j]? = some right) (hsame : right.unplaced = left.unplaced) :
    ∃ launcher, reshaper.launchers.get left.name = .ok launcher ∧
      other.launchers.get left.name = .ok launcher := by
  obtain ⟨launcher, hget, hmade⟩ := (build_eq_ok ha hbuild).2 hleft
  obtain ⟨launcher', hget', hmade'⟩ := (build_eq_ok hb hother).2 hright
  rw [outcome_launcherFor_of_reordered h ha hb hleft hright hsame, hmade, Except.ok.injEq] at hmade'
  rw [Layer.name_of_unplaced hsame, ← hmade'] at hget'
  exact ⟨launcher, hget, hget'⟩

theorem get_of_seeded (hbuild : (build a registry).outcome = .ok reshaper)
    (hother : (build b registry).outcome = .ok other) {seeded seeded' : LauncherSet}
    (hseeded : Seeded reshaper overrides reshaper.inputLayers seeded)
    (hseeded' : Seeded other overrides other.inputLayers seeded') (hleft : a.layers[i]? = some left)
    (hright : b.layers[j]? = some right) (hsame : right.unplaced = left.unplaced) :
    seeded'.get left.name = seeded.get left.name := by
  obtain ⟨launcher, hget, hget'⟩ := get_of_builds h ha hb hbuild hother hleft hright hsame
  have hmade := (build_eq_ok ha hbuild).1
  have hname : launcher.layerName = left.name := hmade.launchers.wellFormed.layerName_eq hget
  have hinput : launcher.layerName ∈ other.inputLayers ↔ launcher.layerName ∈ reshaper.inputLayers := by
    rw [hname, mem_inputLayers_iff ha hmade hleft, ← Layer.name_of_unplaced hsame,
      mem_inputLayers_iff hb (build_eq_ok hb hother).1 hright, ha.id_eq hleft, hb.id_eq hright]
    exact (h.mem_inputLayers_iff ha hb hleft hright hsame).symm
  rw [hseeded.get_eq hget, hseeded'.get_eq hget', startLauncher, startLauncher, if_congr hinput rfl rfl]

/-- The reshaper of the reordered network computes the same launchers by name. -/
theorem compute_of_reordered (hbuild : (build a registry).outcome = .ok reshaper)
    (hother : (build b registry).outcome = .ok other) {seeded goal : LauncherSet}
    (hseeded : Seeded reshaper overrides reshaper.inputLayers seeded)
    (hpulled : Pulled seeded reshaper.sortedLayers goal) {order : List LayerId}
    (horder : b.topologicalOrder = .ok order) :
    ∃ set, (other.compute b overrides).outcome = .ok (order.map fun id => (b.nameOf id, id), set) ∧
      ∀ {j : LayerId} {right : Layer}, b.layers[j]? = some right →
        set.get right.name = goal.get right.name := by
  have hmade := (build_eq_ok ha hbuild).1
  have hmade' := (build_eq_ok hb hother).1
  have hsorts := hb.sorts horder
  obtain ⟨seeded', hseeded', hcompute⟩ := hmade'.outcome_compute overrides hb horder
  have hgoal : ∀ id ∈ order, Computed seeded' goal (b.nameOf id) := by
    intro j hj
    obtain ⟨right, hright⟩ := hsorts.exists_layer hj
    obtain ⟨i, left, hleft, hsame⟩ := h.symm.exists_layer hright
    rw [Network.nameOf_eq hright, Layer.name_of_unplaced hsame.symm, Computed,
      get_of_seeded h ha hb hbuild hother hseeded hseeded' hleft hright hsame.symm]
    exact hpulled.computed ((hmade.mem_sortedLayers_iff ha).2 ⟨i, left, hleft, rfl⟩)
  obtain ⟨set, hloop, hset⟩ := exists_loop_of_computed hb hmade' hseeded' horder hgoal
  refine ⟨set, by rw [hcompute, hloop, ok_bind], fun {j right} hright => ?_⟩
  rw [← Network.nameOf_eq hright]
  exact hset j (hsorts.mem_of_layer hright)

/-- A run of a reshaper for a reordered network is accepted too, and writes the same shapes. -/
theorem reordered_of_run (hbuild : (build a registry).outcome = .ok reshaper)
    (hother : (build b registry).outcome = .ok other)
    (hrun : (reshaper.run a overrides).journal.outcome = .ok ()) :
    (other.run b overrides).journal.outcome = .ok () ∧
      (reshaper.run a overrides).network.Reordered (other.run b overrides).network := by
  have hmade := (build_eq_ok ha hbuild).1
  have hmade' := (build_eq_ok hb hother).1
  obtain ⟨located, seeded, goal, hlocated, hseeded, hpulled, hwritten⟩ := run_eq_ok ha ha hmade hrun
  obtain ⟨order, horder, -⟩ := hmade'.sorted
  obtain ⟨set, hcompute, hset⟩ :=
    compute_of_reordered h ha hb hbuild hother hseeded hpulled horder
  -- the launcher of a layer writes the layers of its name in both networks
  have hchanges : ∀ {i j : LayerId} {left right : Layer}, a.layers[i]? = some left →
      b.layers[j]? = some right → right.unplaced = left.unplaced → ∃ launcher left' right',
        (reshaper.run a overrides).network.layers[i]? = some left' ∧
          set.get (b.nameOf j) = .ok launcher ∧ launcher.applyChanges right = .ok right' ∧
            right'.unplaced = left'.unplaced := by
    intro i j left right hleft hright hsame
    obtain ⟨launcher, left', hget, hchanged, hleft'⟩ :=
      hwritten.written (hlocated.mem_of_layer ha hmade hleft) hleft
    obtain ⟨right', hchanged', hunplaced⟩ := Launcher.applyChanges_of_unplaced hsame hchanged
    rw [← Layer.name_of_unplaced hsame, ← hset hright, ← Network.nameOf_eq hright] at hget
    exact ⟨launcher, left', right', hleft', hget, hchanged', hunplaced⟩
  have hnodup := (hmade'.locates hb horder).nodup_ids hb hmade'
  obtain ⟨b', hb', hwritten'⟩ := writeBack_of_writable hnodup fun entry hentry => by
    obtain ⟨j, hj, rfl⟩ := List.mem_map.1 hentry
    obtain ⟨right, hright⟩ := (hb.sorts horder).exists_layer hj
    obtain ⟨i, left, hleft, hsame⟩ := h.symm.exists_layer hright
    obtain ⟨launcher, -, right', -, hget, hchanged, -⟩ := hchanges hleft hright hsame.symm
    exact ⟨launcher, right, right', hget, hright, hchanged⟩
  have hresult : (other.run b overrides).network = b' ∧
      (other.run b overrides).journal.outcome = .ok () := by
    simp only [run, hcompute, hb', and_self]
  rw [hresult.1]
  refine ⟨hresult.2, h.of_skeleton hwritten.skeleton_eq hwritten'.skeleton_eq
    fun {i j left right left' right'} hi hj hsame hi' hj' => ?_⟩
  obtain ⟨launcher, written, written', hi'', hget, hchanged, hunplaced⟩ := hchanges hi hj hsame
  obtain ⟨launcher', changed, hget', hchanged', hj''⟩ :=
    hwritten'.written (List.mem_map_of_mem ((hb.sorts horder).mem_of_layer hj)) hj
  rw [hget, Except.ok.injEq] at hget'
  rw [← hget', hchanged, Except.ok.injEq] at hchanged'
  rw [hi', Option.some.injEq] at hi''
  rw [hj', Option.some.injEq] at hj''
  rw [hi'', hj'', ← hchanged', hunplaced]

end

end Reshaper

namespace Network

variable {a b : Network}

/-- A run over a reordered network is accepted too, and leaves a reordered network. -/
theorem reordered_of_inferShapes (h : a.Reordered b) (ha : a.WellFormed) (hb : b.WellFormed)
    {registry : Registry} {config : RunConfig}
    (hrun : (a.inferShapes registry config).journal.outcome = .ok ()) :
    (b.inferShapes registry config).journal.outcome = .ok () ∧
      (a.inferShapes registry config).network.Reordered (b.inferShapes registry config).network := by
  obtain ⟨mode, overrides⟩ := config
  cases mode with
  | transactional => exact Propagator.reordered_of_transactional h ha hb hrun
  | legacy =>
    obtain ⟨reshaper, hbuild⟩ := exists_build_of_inferShapes hrun
    obtain ⟨other, hother⟩ := Reshaper.exists_build_of_reordered h ha hb hbuild
    obtain ⟨hleft, houtcome⟩ := @inferShapes_of_build _ _ overrides _ hbuild
    obtain ⟨hright, houtcome'⟩ := @inferShapes_of_build _ _ overrides _ hother
    rw [houtcome] at hrun
    rw [hleft, hright, houtcome']
    exact Reshaper.reordered_of_run h ha hb hbuild hother hrun

/-- The order in which layers and connections were added decides neither whether a run is accepted nor
which shapes it gives to the layer of a name. -/
theorem inferShapes_reordered (ha : a.Built) (hb : b.Built) (h : a.Reordered b) (registry : Registry)
    (config : RunConfig) :
    ((a.inferShapes registry config).journal.outcome = .ok () ↔
      (b.inferShapes registry config).journal.outcome = .ok ()) ∧
    ((a.inferShapes registry config).journal.outcome = .ok () →
      (a.inferShapes registry config).network.Reordered (b.inferShapes registry config).network ∧
      ∀ left ∈ (a.inferShapes registry config).network.layers,
        ∀ right ∈ (b.inferShapes registry config).network.layers, left.name = right.name →
          left.inputShapes = right.inputShapes ∧ left.outputShapes = right.outputShapes) := by
  refine ⟨⟨fun hrun => (reordered_of_inferShapes h ha.wellFormed hb.wellFormed hrun).1,
    fun hrun => (reordered_of_inferShapes h.symm hb.wellFormed ha.wellFormed hrun).1⟩, fun hrun => ?_⟩
  obtain ⟨-, hresult⟩ := reordered_of_inferShapes h ha.wellFormed hb.wellFormed hrun
  refine ⟨hresult, fun left hleft right hright hname => ?_⟩
  obtain ⟨i, hi⟩ := List.mem_iff_getElem?.1 hleft
  obtain ⟨j, hj⟩ := List.mem_iff_getElem?.1 hright
  have hsame := hresult.unplaced_eq (hb.inferShapes registry config).wellFormed hi hj hname.symm
  rw [Layer.eq_replaced_of_unplaced hsame]
  exact ⟨rfl, rfl⟩

/-- The activation is added before the input that feeds it. -/
def sampleSwapped : Network where
  name := "sample"
  layers := [⟨0, "act", "ReLU", [⟨"in", [1, 4]⟩], [⟨"out", [1, 4]⟩], .empty, .empty, false⟩,
    ⟨1, "data", "Input", [], [⟨"data", [1, 4]⟩], .empty, .empty, false⟩]
  connections := [⟨⟨1, 0⟩, ⟨0, 0⟩⟩]
  names := (Table.empty.insert "act" 0).insert "data" 1
  producers := Table.empty.insert ⟨0, 0⟩ ⟨1, 0⟩
  consumers := Table.empty.insert ⟨1, 0⟩ [⟨0, 0⟩]

theorem built_sampleSwapped : sampleSwapped.Built := by
  have hact := @Built.addLayer _ _
    ⟨0, "act", "ReLU", [⟨"in", [1, 4]⟩], [⟨"out", [1, 4]⟩], .empty, .empty, false⟩ 0
    (.empty "sample") rfl
  have hdata := @Built.addLayer _ _
    ⟨0, "data", "Input", [], [⟨"data", [1, 4]⟩], .empty, .empty, false⟩ 1 hact rfl
  exact @Built.connectPorts _ _ ⟨1, 0⟩ ⟨0, 0⟩ hdata rfl

theorem reordered_sample : sample.Reordered sampleSwapped where
  layers_iff := by
    intro layer
    have hreverse : sampleSwapped.layers.map Layer.unplaced =
        (sample.layers.map Layer.unplaced).reverse := rfl
    rw [hreverse, List.mem_reverse]
  connections_iff := by
    intro connection
    have hsame : sampleSwapped.connections.map sampleSwapped.describeConnection =
        sample.connections.map sample.describeConnection := by decide +kernel
    rw [hsame]

/-- The orders of the layers differ, the shapes do not. -/
theorem sampleSwapped_inferShapes : sample.topologicalOrder = .ok [0, 1] ∧
    sampleSwapped.topologicalOrder = .ok [1, 0] ∧
    ((sample.inferShapes .builtIn ⟨.legacy, sampleRequest⟩).journal.outcome = .ok () ↔
      (sampleSwapped.inferShapes .builtIn ⟨.legacy, sampleRequest⟩).journal.outcome = .ok ()) ∧
    (sample.inferShapes .builtIn ⟨.legacy, sampleRequest⟩).network.Reordered
      (sampleSwapped.inferShapes .builtIn ⟨.legacy, sampleRequest⟩).network := by
  have hrun : (sample.inferShapes .builtIn ⟨.legacy, sampleRequest⟩).journal.outcome = .ok () := by
    decide +kernel
  obtain ⟨hiff, hresult⟩ := inferShapes_reordered built_sample built_sampleSwapped reordered_sample
    .builtIn ⟨.legacy, sampleRequest⟩
  exact ⟨by decide +kernel, by decide +kernel, hiff, (hresult hrun).1⟩

end Network

end ShapeFlow
