import ShapeFlow.Proofs.Engine.Independence
import ShapeFlow.Proofs.Engine.Rebinding

/-!
Reshapers over histories of calls. A run in place works on a copy of the launchers, so that it leaves
the reshaper as it was, also if it fails; of a history only the extensions are left, and no run depends
on the runs before it.
-/

namespace ShapeFlow

/-! ### Runs in place -/

/-- What a run can reach: the reshaper, the network, and the copy of the launchers it works on. -/
structure Bench where
  reshaper : Reshaper
  network : Network
  copy : LauncherSet

namespace Bench

/-- A call at a bench. What it has written stays written if it is refused later on. -/
abbrev Call := InPlace EngineError Bench

namespace Call

variable {α : Type}

open InPlace

/-- Changes the copy of the launchers, one item after the other. -/
def rework (change : Network → LauncherSet → α → Journal EngineError LauncherSet) :
    List α → Call Unit
  | [] => return
  | item :: rest => do
    let next ← ask fun bench => (change bench.network bench.copy item).outcome
    modify fun bench => { bench with copy := next }
    rework change rest

def writeBack : List (String × LayerId) → Call Unit
  | [] => return
  | entry :: rest => do
    let next ← ask fun bench => Reshaper.writeLayer bench.copy bench.network entry
    modify fun bench => { bench with network := next }
    writeBack rest

/-- Infers the shapes of the network. -/
def infer (overrides : Overrides) : Call Unit := do
  let located ← ask fun bench => bench.reshaper.locate bench.network
  modify fun bench => { bench with copy := bench.reshaper.launchers }
  modify fun bench => { bench with copy := bench.copy.reset }
  rework (fun network => Reshaper.seedLayer network overrides) (← get).reshaper.inputLayers
  rework Reshaper.step located
  writeBack located

section

variable (bench : Bench)

/-- Work on the copy leaves the reshaper and the network alone. -/
theorem run_rework (change : Network → LauncherSet → α → Journal EngineError LauncherSet)
    (items : List α) : ∃ left, (rework change items).run bench =
      match (items.foldlM (change bench.network) bench.copy).outcome with
      | .ok copy => .ok () { bench with copy }
      | .error cause => .error cause { bench with copy := left } := by
  rw [Journal.outcome_foldlM]
  induction items generalizing bench with
  | nil => exact ⟨bench.copy, rfl⟩
  | cons item rest ih =>
    rw [rework, run_ask_bind, List.foldlM_cons]
    cases (change bench.network bench.copy item).outcome with
    | error cause => exact ⟨bench.copy, rfl⟩
    | ok next => exact ih { bench with copy := next }

theorem run_writeBack (entries : List (String × LayerId)) : (writeBack entries).run bench =
    match Reshaper.writeBack bench.copy bench.network entries with
    | (network, .ok ()) => .ok () { bench with network }
    | (network, .error cause) => .error cause { bench with network } := by
  induction entries generalizing bench with
  | nil => rfl
  | cons entry rest ih =>
    rw [writeBack, run_ask_bind, Reshaper.writeBack]
    cases Reshaper.writeLayer bench.copy bench.network entry with
    | error cause => rfl
    | ok next => exact ih { bench with network := next }

/-- A run in place changes the network as the run says, and nothing else but the copy. -/
theorem run_infer (overrides : Overrides) : ∃ copy, (infer overrides).run bench =
    match (bench.reshaper.run bench.network overrides).journal.outcome with
    | .ok () =>
      .ok () ⟨bench.reshaper, (bench.reshaper.run bench.network overrides).network, copy⟩
    | .error cause =>
      .error cause ⟨bench.reshaper, (bench.reshaper.run bench.network overrides).network, copy⟩ := by
  obtain ⟨reshaper, network, copy⟩ := bench
  rw [infer, run_ask_bind]
  simp only [Reshaper.run, Reshaper.compute, Journal.outcome_bind, Journal.outcome_lift,
    Journal.outcome_pure]
  cases reshaper.locate network with
  | error cause => exact ⟨copy, rfl⟩
  | ok located =>
    simp only [ok_bind, EStateM.run_bind, EStateM.run_modify, EStateM.run_get]
    obtain ⟨unseeded, hseed⟩ := run_rework ⟨reshaper, network, reshaper.launchers.reset⟩
      (fun network => Reshaper.seedLayer network overrides) reshaper.inputLayers
    rw [hseed]
    cases (reshaper.inputLayers.foldlM (Reshaper.seedLayer network overrides)
        reshaper.launchers.reset).outcome with
    | error cause => exact ⟨unseeded, rfl⟩
    | ok seeded =>
      obtain ⟨uncomputed, hstep⟩ := run_rework ⟨reshaper, network, seeded⟩ Reshaper.step located
      simp only [ok_bind, hstep]
      cases (located.foldlM (Reshaper.step network) seeded).outcome with
      | error cause => exact ⟨uncomputed, rfl⟩
      | ok set =>
        simp only [ok_bind, run_writeBack]
        refine ⟨set, ?_⟩
        rcases Reshaper.writeBack set network located with ⟨written, _ | _⟩ <;> rfl

end

end Call

end Bench

/-! ### Histories of a reshaper -/

namespace Reshaper

/-- A call that is given a reshaper to change. -/
inductive Use where
  | addExtension (extension : Extension)
  | run (network : Network) (overrides : Overrides)

namespace Use

def isExtension : Use → Bool
  | .addExtension _ => true
  | .run _ _ => false

/-- The reshaper that a call leaves. -/
def after (reshaper : Reshaper) : Use → Reshaper
  | .addExtension extension => leftBy ((Call.addExtension extension).run reshaper)
  | .run network overrides =>
    (leftBy ((Bench.Call.infer overrides).run ⟨reshaper, network, .empty⟩)).reshaper

/-- A run leaves the reshaper as it was, also if it fails. -/
theorem after_run (reshaper : Reshaper) (network : Network) (overrides : Overrides) :
    (Use.run network overrides).after reshaper = reshaper := by
  obtain ⟨copy, hrun⟩ := Bench.Call.run_infer ⟨reshaper, network, .empty⟩ overrides
  rw [after, hrun]
  cases (reshaper.run network overrides).journal.outcome <;> rfl

theorem of_after {network : Network} {reshaper : Reshaper} (h : Of network reshaper) (use : Use) :
    Of network (use.after reshaper) := by
  cases use with
  | addExtension extension =>
    rw [after, Call.run_addExtension]
    cases hadd : (reshaper.addExtension extension).outcome with
    | error cause => exact h
    | ok next => exact h.addExtension hadd
  | run other overrides => exact (after_run reshaper other overrides).symm ▸ h

end Use

/-- The reshaper after a history of calls; a refused call does not end it. -/
def history (start : Reshaper) (uses : List Use) : Reshaper :=
  uses.foldl Use.after start

theorem of_history {network : Network} {start : Reshaper} (h : Of network start) (uses : List Use) :
    Of network (start.history uses) :=
  foldl_invariant (fun _ => Of network) h fun _ use _ _ _ hstate => use.of_after hstate

/-- Of a history only the extensions are left. -/
theorem history_eq_extensions (start : Reshaper) (uses : List Use) :
    start.history uses = start.history (uses.filter Use.isExtension) := by
  induction uses generalizing start with
  | nil => rfl
  | cons use rest ih =>
    cases use with
    | addExtension extension => exact ih _
    | run network overrides =>
      calc
        start.history (.run network overrides :: rest)
          = ((Use.run network overrides).after start).history rest := rfl
        _ = start.history rest := by rw [Use.after_run]
        _ = start.history (rest.filter Use.isExtension) := ih start

/-- A run after any history, and a run of a reshaper that was only given the same extensions, on a
network with other shapes: both end alike and leave the same shapes in the layers that are written. A run
in place ends as the run does, and leaves the same network and the reshaper it was given. -/
theorem history_independent {network first second : Network} {registry : Registry} {start : Reshaper}
    (hnetwork : network.Built) (hbuild : (build network registry).outcome = .ok start)
    (uses : List Use) (hfirst : first.Built) (hsecond : second.Built)
    (hskeleton : first.skeleton = second.skeleton) (overrides : Overrides) :
    let used := start.history uses
    let fresh := start.history (uses.filter Use.isExtension)
    (used.run first overrides).journal = (fresh.run second overrides).journal ∧
    ((used.run first overrides).journal.outcome = .ok () →
      ∀ (id : LayerId) (after after' : Layer) (launcher : Launcher),
        (used.run first overrides).network.layers[id]? = some after →
        (fresh.run second overrides).network.layers[id]? = some after' →
        used.launcher after.name = .ok launcher → launcher.kind ≠ .passThrough →
          after.inputShapes = after'.inputShapes ∧ after.outputShapes = after'.outputShapes) ∧
    ∀ copy, ∃ left, (Bench.Call.infer overrides).run ⟨used, first, copy⟩ =
      match (used.run first overrides).journal.outcome with
      | .ok () => .ok () ⟨used, (used.run first overrides).network, left⟩
      | .error cause => .error cause ⟨used, (used.run first overrides).network, left⟩ := by
  intro used fresh
  have hsame : fresh = used := (history_eq_extensions start uses).symm
  have hmade : used.MadeFor network := (of_history (.build hbuild) uses).madeFor hnetwork.wellFormed
  rw [hsame]
  refine ⟨journal_run_of_skeleton hskeleton used overrides, ?_,
    fun copy => Bench.Call.run_infer ⟨used, first, copy⟩ overrides⟩
  intro hrun id after after' launcher hafter hafter' hget hkind
  exact shapes_run_of_skeleton hnetwork.wellFormed hmade hfirst.wellFormed hsecond.wellFormed
    hskeleton hrun hafter hafter' hget hkind

/-- A layer that is passed through at first, an extension for its type, and a run that fails. -/
def sampleUses : List Use :=
  [.run .sample Network.sampleRequest, .addExtension sampleExtension, .run (.empty "other") .empty]

/-- The sample with other shapes. -/
def sampleShapes : List LayerShapes :=
  [⟨[], [[7]]⟩, ⟨[[5, 5]], [[]]⟩]

theorem sample_history_independent : ∃ start reshaped,
    (build .sample .empty).outcome = .ok start ∧
    Network.sample.applyShapes sampleShapes = .ok reshaped ∧
    ((start.history sampleUses).run .sample Network.sampleRequest).journal =
      ((start.history [.addExtension sampleExtension]).run reshaped Network.sampleRequest).journal ∧
    ((start.history sampleUses).run .sample Network.sampleRequest).journal.outcome = .ok () ∧
    ∀ (id : LayerId) (after after' : Layer) (launcher : Launcher),
      ((start.history sampleUses).run .sample Network.sampleRequest).network.layers[id]? =
        some after →
      ((start.history [.addExtension sampleExtension]).run reshaped
        Network.sampleRequest).network.layers[id]? = some after' →
      (start.history sampleUses).launcher after.name = .ok launcher → launcher.kind ≠ .passThrough →
        after.inputShapes = after'.inputShapes ∧ after.outputShapes = after'.outputShapes := by
  have haccepted : ((build .sample .empty).outcome.toOption.map fun start =>
      ((start.history sampleUses).run .sample Network.sampleRequest).journal.outcome) =
        some (.ok ()) := by
    decide +kernel
  obtain ⟨start, hbuild, hrun⟩ := Option.map_eq_some_iff.1 haccepted
  have hbuild := toOption_eq_some_iff.1 hbuild
  have hshapes : ∃ reshaped, Network.sample.applyShapes sampleShapes = .ok reshaped := ⟨_, rfl⟩
  obtain ⟨reshaped, hreshaped⟩ := hshapes
  obtain ⟨hjournal, hlayers, -⟩ := history_independent Network.built_sample hbuild sampleUses
    Network.built_sample (Network.built_sample.applyShapes hreshaped)
    (Network.skeleton_applyShapes hreshaped).symm Network.sampleRequest
  exact ⟨start, reshaped, hbuild, hreshaped, hjournal, hrun, hlayers hrun⟩

end Reshaper

end ShapeFlow
