import ShapeFlow.Proofs.Engine.Propagation
import ShapeFlow.Proofs.InPlace
import ShapeFlow.Proofs.Network.Snapshot

/-!
The table of a propagation, written entry by entry with entries and ports looked up by position. Every
table on the way has a place for each port of the network and no more, so that every position is there
when it is looked up, and the last table can be written to the network.
-/

namespace ShapeFlow

/-- The table of a propagation as it stands, and as it stood before each write. -/
structure Draft where
  table : List LayerShapes
  past : List (List LayerShapes)

namespace Draft

def tables (draft : Draft) : List (List LayerShapes) :=
  draft.table :: draft.past

/-- All tables on the way have a place for each port of the network. -/
def Fits (draft : Draft) (network : Network) : Prop :=
  ∀ table ∈ draft.tables, network.Fits table

/-- A call that works on a table in place. -/
abbrev Call := InPlace (Fault EngineError) Draft

namespace Call

open InPlace

def entry (id : LayerId) : Call LayerShapes := do
  of (itemAt (← get).table id)

def writeEntry (id : LayerId) (shapes : LayerShapes) : Call Unit :=
  modify fun draft => ⟨draft.table.set id shapes, draft.tables⟩

def writeInput (shape : Shape) (target : PortRef) : Call Unit := do
  let shapes ← entry target.layer
  let _ ← of (itemAt shapes.inputs target.port)
  writeEntry target.layer { shapes with inputs := shapes.inputs.set target.port shape }

def seedLayer (overrides : Overrides) (layer : Layer) : Call Unit :=
  match overrides.get? layer.name with
  | none => return
  | some shape =>
    if layer.isType "const" then return
    else do
      refuseIf (layer.outputs.length ≠ 1)
        (.refused (.invalidInputPorts layer.name layer.outputs.length))
      let shapes ← entry layer.id
      let _ ← of (itemAt shapes.outputs 0)
      writeEntry layer.id { shapes with outputs := shapes.outputs.set 0 shape }

def feed (network : Network) (id : LayerId) (output : Nat × Shape) : Call Unit :=
  (network.consumersOf ⟨id, output.1⟩).forM (writeInput output.2)

/-- The rule has to be there before the entry of the layer is looked up. -/
def step (network : Network) (registry : Registry) (id : LayerId) : Call Unit := do
  let layer ← of ((EngineError.ofNetwork (network.layer id)).mapError .refused)
  let _ ← of ((registry.lookup layer.typeName).mapError .refused)
  let shapes ← entry id
  let outputs ← of ((Propagator.inferLayer registry layer shapes).mapError .refused)
  ((List.range outputs.length).zip outputs).forM (feed network id)
  let shapes ← entry id
  writeEntry id { shapes with outputs := outputs }

def propagate (network : Network) (registry : Registry) (overrides : Overrides) : Call Unit := do
  network.layers.forM (seedLayer overrides)
  let order ← of ((EngineError.ofNetwork network.topologicalOrder).mapError .refused)
  order.forM (step network registry)

end Call

/-! ### Calls that stay in range -/

/-- How a call ends that stays in range: with the table of the outcome or with its refusal, after tables
that all fit the network. -/
inductive Ends (network : Network) :
    Except EngineError (List LayerShapes) → EStateM.Result (Fault EngineError) Draft Unit → Prop
  | done {left : Draft} (hleft : left.Fits network) : Ends network (.ok left.table) (.ok () left)
  | refused (cause : EngineError) {left : Draft} (hleft : left.Fits network) :
      Ends network (.error cause) (.error (.refused cause) left)

/-- From every table that fits, the call ends as the step says. -/
def Follows (network : Network) (call : Call Unit)
    (step : List LayerShapes → Except EngineError (List LayerShapes)) : Prop :=
  ∀ draft : Draft, draft.Fits network → Ends network (step draft.table) (call.run draft)

section

variable {network : Network} {draft : Draft} {α : Type}

theorem Fits.exists_entry (h : draft.Fits network) {id : LayerId} {layer : Layer}
    (hlayer : network.layers[id]? = some layer) :
    ∃ shapes, draft.table[id]? = some shapes ∧ shapes.Covers layer :=
  Network.Fits.exists_entry (h draft.table List.mem_cons_self) hlayer

theorem Ends.exists_left {table : List LayerShapes}
    {result : EStateM.Result (Fault EngineError) Draft Unit} (h : Ends network (.ok table) result) :
    ∃ left : Draft, result = .ok () left ∧ left.table = table ∧ left.Fits network := by
  cases h with
  | done hleft => exact ⟨_, rfl, rfl, hleft⟩

theorem Ends.bind {outcome : Except EngineError (List LayerShapes)} {call rest : Call Unit}
    {after : List LayerShapes → Except EngineError (List LayerShapes)}
    (h : Ends network outcome (call.run draft)) (hrest : Follows network rest after) :
    Ends network (outcome >>= after) ((call >>= fun _ => rest).run draft) := by
  rw [EStateM.run_bind]
  generalize call.run draft = result at h ⊢
  cases h with
  | done hleft => exact hrest _ hleft
  | refused cause hleft => exact .refused cause hleft

theorem Ends.of_bind {query : Except EngineError α} {next : α → Call Unit}
    {after : α → Except EngineError (List LayerShapes)} (hdraft : draft.Fits network)
    (hnext : ∀ value, query = .ok value → Ends network (after value) ((next value).run draft)) :
    Ends network (query >>= after) ((InPlace.of (query.mapError .refused) >>= next).run draft) := by
  rw [InPlace.run_of_bind]
  cases hquery : query with
  | ok value => exact hnext value hquery
  | error cause => exact .refused cause hdraft

namespace Follows

variable {call rest : Call Unit} {step after : List LayerShapes → Except EngineError (List LayerShapes)}

theorem pure : Follows network (pure ()) .ok :=
  fun _ hdraft => .done hdraft

theorem bind (h : Follows network call step) (hrest : Follows network rest after) :
    Follows network (call >>= fun _ => rest) fun table => step table >>= after :=
  fun draft hdraft => (h draft hdraft).bind hrest

theorem of_bind {query : Except EngineError α} {next : α → Call Unit}
    {after : List LayerShapes → α → Except EngineError (List LayerShapes)}
    (hnext : ∀ value, query = .ok value → Follows network (next value) (after · value)) :
    Follows network (InPlace.of (query.mapError .refused) >>= next) fun table => query >>= after table :=
  fun draft hdraft => .of_bind hdraft fun value hvalue => hnext value hvalue draft hdraft

/-- A loop follows a chain if its body follows the steps. -/
theorem forM {call : α → Call Unit}
    {step : List LayerShapes → α → Except EngineError (List LayerShapes)} {items : List α}
    (h : ∀ item ∈ items, Follows network (call item) (step · item)) :
    Follows network (items.forM call) fun table => items.foldlM step table := by
  induction items with
  | nil => exact pure
  | cons item rest ih =>
    obtain ⟨hitem, hrest⟩ := List.forall_mem_cons.1 h
    simp only [List.forM_eq_forM, List.forM_cons, List.foldlM_cons] at ih ⊢
    exact hitem.bind (ih hrest)

theorem forM_ok {call : α → Call Unit} {step : List LayerShapes → α → List LayerShapes} {items : List α}
    (h : ∀ item ∈ items, Follows network (call item) fun table => .ok (step table item)) :
    Follows network (items.forM call) fun table => .ok (items.foldl step table) := by
  have hloop := forM h
  have hpure : ∀ table, items.foldlM (fun table item => .ok (step table item)) table =
      (.ok (items.foldl step table) : Except EngineError (List LayerShapes)) :=
    fun table => List.foldlM_pure
  simpa only [hpure] using hloop

end Follows

theorem run_entry_bind {id : LayerId} {shapes : LayerShapes} (h : draft.table[id]? = some shapes)
    (next : LayerShapes → Call α) : (Call.entry id >>= next).run draft = (next shapes).run draft := by
  simp only [Call.entry, bind_assoc, InPlace.run_get_bind, InPlace.run_of_bind, itemAt_eq_ok h]

/-- An entry is replaced by one with as many shapes. -/
private theorem ends_writeEntry (hdraft : draft.Fits network) {id : LayerId} {layer : Layer}
    {shapes : LayerShapes} (hlayer : network.layers[id]? = some layer)
    (hshapes : draft.table[id]? = some shapes) {change : LayerShapes → LayerShapes}
    (hcovers : (change shapes).Covers layer) :
    Ends network (.ok (draft.table.modify id change)) ((Call.writeEntry id (change shapes)).run draft) := by
  have hmodify : draft.table.modify id change = draft.table.set id (change shapes) := by
    rw [List.modify_eq_set_getElem?, hshapes]
    rfl
  have hleft : Draft.Fits ⟨draft.table.set id (change shapes), draft.tables⟩ network := by
    intro table htable
    rcases List.mem_cons.1 htable with rfl | htable
    · exact Network.Fits.set (hdraft draft.table List.mem_cons_self) hlayer hcovers
    · exact hdraft table htable
  rw [hmodify]
  exact .done hleft

/-! ### The calls of a propagation -/

variable {registry : Registry} {overrides : Overrides} {id : LayerId} {layer : Layer}
  {outputs : List Shape}

theorem follows_writeInput {target : PortRef} (hlayer : network.layers[target.layer]? = some layer)
    (hport : target.port < layer.inputs.length) (shape : Shape) :
    Follows network (Call.writeInput shape target) fun table => .ok (setInput shape table target) := by
  intro draft hdraft
  obtain ⟨shapes, hshapes, hcovers⟩ := hdraft.exists_entry hlayer
  rw [Call.writeInput, run_entry_bind hshapes, InPlace.run_itemAt_bind _ (hcovers.1.symm ▸ hport)]
  exact ends_writeEntry hdraft hlayer hshapes ⟨by simpa using hcovers.1, hcovers.2⟩

-- an input beyond the table is not passed over
example : (Call.writeInput [7] ⟨1, 0⟩).run ⟨[⟨[], []⟩], []⟩ = .error .outOfRange ⟨[⟨[], []⟩], []⟩ := rfl

theorem follows_feed (hnetwork : network.WellFormed) (id : LayerId) (output : Nat × Shape) :
    Follows network (Call.feed network id output) fun table =>
      .ok (Propagator.feed network id table output) := by
  refine Follows.forM_ok fun target htarget => ?_
  have hmem := hnetwork.producers_iff.1 (hnetwork.mem_consumersOf_iff.1 htarget)
  obtain ⟨layer, hlayer, hport⟩ := hnetwork.target_exists _ hmem
  exact follows_writeInput hlayer hport output.2

theorem follows_writeOutputs (hlayer : network.layers[id]? = some layer)
    (hlength : outputs.length = layer.outputs.length) :
    Follows network (do
      let shapes ← Call.entry id
      Call.writeEntry id { shapes with outputs := outputs }) fun table =>
        .ok (table.modify id fun shapes => { shapes with outputs := outputs }) := by
  intro draft hdraft
  obtain ⟨shapes, hshapes, hcovers⟩ := hdraft.exists_entry hlayer
  rw [run_entry_bind hshapes]
  exact ends_writeEntry hdraft hlayer hshapes ⟨hcovers.1, hlength⟩

theorem follows_seedLayer (hnetwork : network.WellFormed) (hlayer : layer ∈ network.layers) :
    Follows network (Call.seedLayer overrides layer) (Propagator.seedLayer overrides · layer) := by
  obtain ⟨id, hid⟩ := List.mem_iff_getElem?.1 hlayer
  obtain rfl := hnetwork.id_eq hid
  intro draft hdraft
  unfold Call.seedLayer Propagator.seedLayer
  cases overrides.get? layer.name with
  | none => exact .done hdraft
  | some shape =>
    dsimp only
    split
    · exact .done hdraft
    · rw [InPlace.run_refuseIf_bind]
      split
      · exact .refused _ hdraft
      · next hsingle =>
        rw [not_not] at hsingle
        obtain ⟨shapes, hshapes, hcovers⟩ := hdraft.exists_entry hid
        rw [run_entry_bind hshapes, InPlace.run_itemAt_bind _ (by rw [hcovers.2, hsingle]; decide)]
        exact ends_writeEntry hdraft hid hshapes ⟨hcovers.1, by simpa using hcovers.2⟩

theorem follows_step (hnetwork : network.WellFormed) (id : LayerId) :
    Follows network (Call.step network registry id) fun table =>
      (Propagator.step network registry table id).outcome := by
  intro draft hdraft
  beta_reduce
  have hstep : (Propagator.step network registry draft.table id).outcome =
      EngineError.ofNetwork (network.layer id) >>= fun layer =>
        Propagator.inferLayer registry layer (draft.table[id]?.getD ⟨[], []⟩) >>= fun outputs =>
          .ok (Propagator.advance network id outputs draft.table) := by
    simp only [Propagator.step, Journal.outcome_bind, Journal.outcome_lift, Journal.outcome_note,
      Journal.outcome_pure, ok_bind]
    rfl
  rw [hstep]
  refine Ends.of_bind hdraft fun layer hfound => ?_
  have hlayer := Network.layer_eq_ok_iff.1 (EngineError.ofNetwork_eq_ok_iff.1 hfound)
  obtain ⟨shapes, hshapes, hcovers⟩ := hdraft.exists_entry hlayer
  -- a rule that is missing is refused already before the entry is looked up
  have hlookup : Propagator.inferLayer registry layer shapes =
      registry.lookup layer.typeName >>= fun _ => Propagator.inferLayer registry layer shapes := by
    unfold Propagator.inferLayer
    cases registry.lookup layer.typeName <;> rfl
  rw [hshapes, Option.getD_some, hlookup, bind_assoc]
  refine Ends.of_bind hdraft fun rule _ => ?_
  rw [run_entry_bind hshapes]
  refine Ends.of_bind hdraft fun outputs houtputs => ?_
  have hfed : Follows network (((List.range outputs.length).zip outputs).forM (Call.feed network id))
      fun table => .ok (Propagator.feedAll network id outputs table) :=
    Follows.forM_ok fun output _ => follows_feed hnetwork id output
  exact (hfed draft hdraft).bind (follows_writeOutputs hlayer (Propagator.length_of_inferLayer houtputs))

theorem follows_propagate (hnetwork : network.WellFormed) (registry : Registry) (overrides : Overrides) :
    Follows network (Call.propagate network registry overrides) fun table =>
      network.layers.foldlM (Propagator.seedLayer overrides) table >>= fun seeded =>
        EngineError.ofNetwork network.topologicalOrder >>= fun order =>
          order.foldlM (fun table id => (Propagator.step network registry table id).outcome) seeded := by
  refine (Follows.forM fun layer hlayer => follows_seedLayer hnetwork hlayer).bind ?_
  exact Follows.of_bind fun order _ => Follows.forM fun id _ => follows_step hnetwork id

end

end Draft

open Draft in
/-- A propagation never looks beyond its table. From the snapshot on, each table on its way has an entry
for every layer and in it a shape for every port, also if the propagation is refused; and a table that is
handed over is accepted by the network. -/
theorem Propagator.propagate_in_range {network : Network} (h : network.Built) (registry : Registry)
    (overrides : Overrides) :
    Ends network (propagate network registry overrides).outcome
      ((Call.propagate network registry overrides).run ⟨network.snapshot, []⟩) ∧
    ∀ table, (propagate network registry overrides).outcome = .ok table →
      ∃ next, network.applyShapes table = .ok next := by
  have hends : Ends network (propagate network registry overrides).outcome
      ((Call.propagate network registry overrides).run ⟨network.snapshot, []⟩) := by
    have hstart : Fits ⟨network.snapshot, []⟩ network := by
      intro table htable
      rw [List.mem_singleton.1 htable]
      exact network.fits_snapshot
    have hfollows := follows_propagate h.wellFormed registry overrides _ hstart
    simpa only [propagate, seed, Journal.outcome_bind, Journal.outcome_lift, Journal.outcome_foldlM]
      using hfollows
  refine ⟨hends, fun table htable => ?_⟩
  rw [htable] at hends
  obtain ⟨left, -, rfl, hleft⟩ := hends.exists_left
  exact Network.exists_applyShapes_iff.2 (hleft left.table List.mem_cons_self)

open Draft in
theorem Propagator.sample_in_range : ∃ left : Draft,
    (Call.propagate .sample .builtIn Network.sampleRequest).run ⟨Network.sample.snapshot, []⟩ =
      .ok () left ∧ left.table ≠ Network.sample.snapshot ∧ left.Fits .sample ∧
        ∃ next, Network.sample.applyShapes left.table = .ok next := by
  obtain ⟨hends, haccepted⟩ :=
    propagate_in_range Network.built_sample .builtIn Network.sampleRequest
  have hdone : ∃ table, (propagate .sample .builtIn Network.sampleRequest).outcome = .ok table ∧
      table ≠ Network.sample.snapshot :=
    ⟨[⟨[], [[2, 4]]⟩, ⟨[[2, 4]], [[2, 4]]⟩], by decide +kernel, by decide +kernel⟩
  obtain ⟨table, htable, hne⟩ := hdone
  rw [htable] at hends
  obtain ⟨left, hrun, rfl, hleft⟩ := hends.exists_left
  exact ⟨left, hrun, hne, hleft, haccepted left.table htable⟩

end ShapeFlow
