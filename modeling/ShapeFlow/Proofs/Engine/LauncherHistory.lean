import ShapeFlow.Proofs.Engine.Construction
import ShapeFlow.Proofs.InPlace

/-!
Launchers over histories of calls. A launcher has a slot for the shape of every declared output, so that no
call reaches beyond its lists, and a refused call leaves it as it was. What a history leaves differs from
the launcher at its start in the shapes of a run and in the kind only, and the outputs of a constant have
their declared shapes throughout.
-/

namespace ShapeFlow.Launcher

/-- There is a slot for every declared output, and a declared output for every name. -/
structure Slotted (launcher : Launcher) : Prop where
  length_outShapes : launcher.outShapes.length = launcher.declaredOutputs.length
  length_declaredOutputs : launcher.declaredOutputs.length = launcher.outputNames.length

/-- The shape of an output, with its slot looked up by position. -/
def shapeAt (launcher : Launcher) (port : Nat) : Except (Fault EngineError) Shape :=
  match launcher.declaredOutputs[port]? with
  | none => .error (.refused (.portNotFound launcher.layerName ("#" ++ Text.naturalText port)))
  | some declared => do
    match ← itemAt launcher.outShapes port, launcher.kind with
    | some shape, _ => .ok shape
    | none, .ordinary _ | none, .input =>
      .error (.refused (.shapeNotComputed launcher.layerName port))
    | none, _ => .ok declared

/-- A call on a launcher in place. -/
abbrev Call := InPlace (Fault EngineError) Launcher

namespace Call

open InPlace

def fillSlot (index : Nat) (shape : Shape) : Call Unit := do
  let _ ← of (itemAt (← get).outShapes index)
  modify fun launcher => { launcher with outShapes := launcher.outShapes.set index (some shape) }

/-- A request for a constant writes nothing, but looks up the declared shape for the warning. -/
def setShape (shape : Shape) (portName : String) : Call Unit := do
  let index ← ask fun launcher => (launcher.outputIndex portName).mapError .refused
  match (← get).kind with
  | .constant =>
    let _ ← of (itemAt (← get).declaredOutputs index)
    return
  | _ => fillSlot index shape

def setDeclaredShape (portName : String) : Call Unit := do
  let index ← ask fun launcher => (launcher.outputIndex portName).mapError .refused
  let shape ← of (itemAt (← get).declaredOutputs index)
  fillSlot index shape

def reshape (inputs : List Shape) : Call Unit := do
  match (← get).kind with
  | .ordinary rule =>
    let outputs ← ask fun launcher => (rule inputs launcher.params launcher.blobs).mapError
      fun cause => .refused (.inference launcher.layerName cause)
    let launcher ← get
    refuseIf (outputs.length ≠ launcher.declaredOutputs.length) (.refused (.shapeCountMismatch
      launcher.layerName launcher.declaredOutputs.length outputs.length))
    modify fun launcher => { launcher with outShapes := outputs.map some }
    modify fun launcher => { launcher with inShapes := some inputs }
  | .passThrough => return
  | _ => modify fun launcher => { launcher with inShapes := some inputs }

def reset : Call Unit := do
  modify fun launcher => { launcher with inShapes := none }
  modify fun launcher => { launcher with outShapes := launcher.outShapes.map fun _ => none }

def rebind (rule : Rule) : Call Unit := do
  modify fun launcher => { launcher with kind := .ordinary rule }
  reset

end Call

/-- Writes the shapes of the launcher to a layer in place, after all of them have been collected. -/
def writeTo (launcher : Launcher) : InPlace (Fault EngineError) Layer Unit := do
  match launcher.kind with
  | .passThrough => return
  | _ =>
    let layer ← get
    InPlace.refuseIf (layer.name ≠ launcher.layerName ∨ layer.outputs.length ≠ launcher.outShapes.length)
      (.refused (.layerNotFound launcher.layerName))
    let outputs ← InPlace.of ((List.range launcher.outShapes.length).mapM launcher.shapeAt)
    modify fun layer => { layer with inputs := setShapes layer.inputs (launcher.inShapes.getD []) }
    modify fun layer => { layer with outputs := setShapes layer.outputs outputs }

/-! ### The calls stay in range -/

section

variable {launcher next : Launcher}

theorem outputIndex_eq_ok {portName : String} {index : Nat}
    (h : launcher.outputIndex portName = .ok index) : index < launcher.outputNames.length := by
  unfold outputIndex at h
  split at h
  · next found hfound =>
    cases h
    exact (List.findIdx?_eq_some_iff_getElem.1 hfound).1
  · cases h

theorem outputIndex_eq_error_iff {portName : String} {cause : EngineError} :
    launcher.outputIndex portName = .error cause ↔
      portName ∉ launcher.outputNames ∧ cause = .portNotFound launcher.layerName portName := by
  unfold outputIndex
  split
  · next found hfound =>
    obtain ⟨hlt, hname, -⟩ := List.findIdx?_eq_some_iff_getElem.1 hfound
    have hmem : portName ∈ launcher.outputNames := by
      rw [beq_iff_eq] at hname
      exact hname ▸ List.getElem_mem hlt
    simp [hmem]
  · next hnone =>
    have hnot : portName ∉ launcher.outputNames := by
      intro hmem
      simpa using List.findIdx?_eq_none_iff.1 hnone portName hmem
    simp [hnot, eq_comm]

theorem setShape_eq_ok_iff {shape : Shape} {portName : String} :
    (launcher.setShape shape portName).outcome = .ok next ↔
      ∃ index, launcher.outputIndex portName = .ok index ∧ next = match launcher.kind with
        | .constant => launcher
        | _ => { launcher with outShapes := launcher.outShapes.set index (some shape) } := by
  simp only [setShape, Journal.outcome_bind, Journal.outcome_lift, bind_eq_ok_iff]
  refine exists_congr fun index => and_congr_right fun _ => ?_
  cases launcher.kind <;> simp only [Journal.outcome_bind, Journal.outcome_note, Journal.outcome_pure,
    ok_bind, Except.ok.injEq, @eq_comm _ next]

theorem shapeAt_eq (h : launcher.Slotted) (port : Nat) :
    launcher.shapeAt port = (launcher.outputShape port).mapError .refused := by
  unfold shapeAt outputShape
  cases hdeclared : launcher.declaredOutputs[port]? with
  | none => rfl
  | some declared =>
    have hlt : port < launcher.outShapes.length := by
      rw [h.length_outShapes]
      exact (List.getElem?_eq_some_iff.1 hdeclared).1
    have hslot := List.getElem?_eq_getElem hlt
    simp only [itemAt_eq_ok hslot, hslot, ok_bind, Option.join_some]
    cases launcher.outShapes[port] <;> cases launcher.kind <;> rfl

namespace Call

open InPlace

theorem run_fillSlot {index : Nat} (h : index < launcher.outShapes.length) (shape : Shape) :
    (fillSlot index shape).run launcher =
      .ok () { launcher with outShapes := launcher.outShapes.set index (some shape) } := by
  rw [fillSlot, run_get_bind, run_itemAt_bind _ h]
  rfl

theorem run_setShape (h : launcher.Slotted) (shape : Shape) (portName : String) :
    (setShape shape portName).run launcher =
      ending launcher (launcher.setShape shape portName).outcome := by
  simp only [setShape, Launcher.setShape, run_ask_bind, Journal.outcome_bind, Journal.outcome_lift]
  cases hindex : launcher.outputIndex portName with
  | error cause => rfl
  | ok index =>
    have hdeclared : index < launcher.declaredOutputs.length :=
      h.length_declaredOutputs ▸ outputIndex_eq_ok hindex
    have hwritten := run_fillSlot (h.length_outShapes ▸ hdeclared) shape
    simp only [Except.mapError, run_get_bind, ok_bind]
    -- the written launcher mentions its kind as well, so that both are taken apart at once
    generalize launcher.kind = kind at hwritten ⊢
    cases kind with
    | constant =>
      rw [run_get_bind, run_itemAt_bind _ hdeclared]
      rfl
    | _ => exact hwritten

theorem run_setDeclaredShape (h : launcher.Slotted) (portName : String) :
    (setDeclaredShape portName).run launcher = ending launcher (launcher.setDeclaredShape portName) := by
  simp only [setDeclaredShape, Launcher.setDeclaredShape, run_ask_bind]
  cases hindex : launcher.outputIndex portName with
  | error cause => rfl
  | ok index =>
    have hdeclared : index < launcher.declaredOutputs.length :=
      h.length_declaredOutputs ▸ outputIndex_eq_ok hindex
    simp only [Except.mapError, run_get_bind, run_itemAt_bind _ hdeclared, ok_bind,
      List.getElem?_eq_getElem hdeclared, run_fillSlot (h.length_outShapes ▸ hdeclared), ending_ok]

theorem run_reshape (launcher : Launcher) (inputs : List Shape) :
    (reshape inputs).run launcher = ending launcher (launcher.reshape inputs) := by
  simp only [reshape, Launcher.reshape, run_get_bind]
  cases hkind : launcher.kind with
  | ordinary rule =>
    simp only [run_ask_bind]
    cases rule inputs launcher.params launcher.blobs with
    | error cause => rfl
    | ok outputs =>
      simp only [Except.mapError, run_get_bind, run_refuseIf_bind, ite_not]
      split
      · rw [← hkind]
        rfl
      · rfl
  | passThrough => rfl
  | _ =>
    dsimp only
    rw [← hkind]
    rfl

end Call

theorem run_writeTo (h : launcher.Slotted) (layer : Layer) :
    launcher.writeTo.run layer = InPlace.ending layer (launcher.applyChanges layer) := by
  have houtputs : (List.range launcher.outShapes.length).mapM launcher.shapeAt =
      launcher.outputs.mapError .refused := by
    rw [outputs, ← mapM_mapError]
    exact mapM_congr fun port _ => shapeAt_eq h port
  unfold writeTo applyChanges
  rw [← outputs, houtputs]
  cases launcher.kind with
  | passThrough => rfl
  | _ =>
    simp only [InPlace.run_get_bind, InPlace.run_refuseIf_bind, InPlace.run_of_bind]
    split
    · rfl
    · cases launcher.outputs <;> rfl

end

/-! ### Histories -/

/-- A call that changes a launcher. -/
inductive Use where
  | setShape (shape : Shape) (portName : String)
  | setDeclaredShape (portName : String)
  | reshape (inputs : List Shape)
  | reset
  | rebind (rule : Rule)

namespace Use

def perform : Use → Call Unit
  | .setShape shape portName => Call.setShape shape portName
  | .setDeclaredShape portName => Call.setDeclaredShape portName
  | .reshape inputs => Call.reshape inputs
  | .reset => Call.reset
  | .rebind rule => Call.rebind rule

/-- The launcher after the use, or why the use is refused. -/
def outcome (launcher : Launcher) : Use → Except EngineError Launcher
  | .setShape shape portName => (launcher.setShape shape portName).outcome
  | .setDeclaredShape portName => launcher.setDeclaredShape portName
  | .reshape inputs => launcher.reshape inputs
  | .reset => .ok launcher.reset
  | .rebind rule => .ok (launcher.rebind rule)

/-- The launcher that a use leaves. -/
def after (launcher : Launcher) (use : Use) : Launcher :=
  leftBy (use.perform.run launcher)

def rule? : Use → Option Rule
  | .rebind rule => some rule
  | _ => none

end Use

/-- The launcher after a history of uses; a refused use does not end it. -/
def history (start : Launcher) (uses : List Use) : Launcher :=
  uses.foldl Use.after start

/-- The kind that the last rebinding gives; without one, the kind at the start. -/
def kindAfter (kind : LauncherKind) (uses : List Use) : LauncherKind :=
  (uses.filterMap Use.rule?).getLast?.elim kind .ordinary

/-- Why a use is refused. -/
inductive Refuses (launcher : Launcher) : Use → EngineError → Prop
  | unknownPort (shape : Shape) {portName : String} (hport : portName ∉ launcher.outputNames) :
      Refuses launcher (.setShape shape portName) (.portNotFound launcher.layerName portName)
  | unknownDeclaredPort {portName : String} (hport : portName ∉ launcher.outputNames) :
      Refuses launcher (.setDeclaredShape portName) (.portNotFound launcher.layerName portName)
  | inference {rule : Rule} {inputs : List Shape} {cause : RuleError}
      (hkind : launcher.kind = .ordinary rule)
      (hrule : rule inputs launcher.params launcher.blobs = .error cause) :
      Refuses launcher (.reshape inputs) (.inference launcher.layerName cause)
  | shapeCount {rule : Rule} {inputs outputs : List Shape} (hkind : launcher.kind = .ordinary rule)
      (hrule : rule inputs launcher.params launcher.blobs = .ok outputs)
      (hlength : outputs.length ≠ launcher.declaredOutputs.length) :
      Refuses launcher (.reshape inputs) (.shapeCountMismatch launcher.layerName
        launcher.declaredOutputs.length outputs.length)

/-- The shapes that a constant holds are the declared ones. -/
def HoldsDeclared (launcher : Launcher) : Prop :=
  launcher.kind = .constant → ∀ (port : Nat) (shape : Shape),
    launcher.outShapes[port]? = some (some shape) → launcher.declaredOutputs[port]? = some shape

namespace Use

variable {launcher next : Launcher} {use : Use}

theorem run_perform (h : launcher.Slotted) (use : Use) :
    use.perform.run launcher = InPlace.ending launcher (use.outcome launcher) := by
  cases use with
  | setShape shape portName => exact Call.run_setShape h shape portName
  | setDeclaredShape portName => exact Call.run_setDeclaredShape h portName
  | reshape inputs => exact Call.run_reshape launcher inputs
  | reset => rfl
  | rebind rule => rfl

theorem after_eq (h : launcher.Slotted) (use : Use) :
    use.after launcher = (use.outcome launcher).toOption.getD launcher := by
  rw [after, run_perform h]
  cases use.outcome launcher <;> rfl

theorem outcome_eq_error_iff {cause : EngineError} :
    use.outcome launcher = .error cause ↔ launcher.Refuses use cause := by
  constructor
  · intro h
    cases use with
    | setShape shape portName =>
      simp only [outcome, Launcher.setShape, Journal.outcome_bind, Journal.outcome_lift,
        bind_eq_error_iff] at h
      rcases h with hindex | ⟨index, -, h⟩
      · obtain ⟨hport, rfl⟩ := outputIndex_eq_error_iff.1 hindex
        exact .unknownPort shape hport
      · split at h <;> cases h
    | setDeclaredShape portName =>
      rcases bind_eq_error_iff.1 h with hindex | ⟨index, -, h⟩
      · obtain ⟨hport, rfl⟩ := outputIndex_eq_error_iff.1 hindex
        exact .unknownDeclaredPort hport
      · cases h
    | reshape inputs =>
      simp only [outcome, Launcher.reshape] at h
      split at h
      · next rule hkind =>
        split at h
        · next fault hrule =>
          cases h
          exact .inference hkind hrule
        · next outputs hrule =>
          split at h
          · cases h
          · next hlength =>
            cases h
            exact .shapeCount hkind hrule hlength
      · cases h
      · cases h
    | reset => cases h
    | rebind rule => cases h
  · intro h
    cases h with
    | unknownPort shape hport =>
      simp [outcome, Launcher.setShape, outputIndex_eq_error_iff.2 ⟨hport, rfl⟩]
    | unknownDeclaredPort hport =>
      simp [outcome, Launcher.setDeclaredShape, outputIndex_eq_error_iff.2 ⟨hport, rfl⟩]
    | inference hkind hrule => simp [outcome, Launcher.reshape, hkind, hrule]
    | shapeCount hkind hrule hlength => simp [outcome, Launcher.reshape, hkind, hrule, hlength]

/-- Apart from the kind, an accepted use changes shapes of a run only. -/
theorem reset_of_outcome (h : launcher.Slotted) (hout : use.outcome launcher = .ok next) :
    next.reset = { launcher with kind := use.rule?.elim launcher.kind .ordinary }.reset := by
  cases use with
  | setShape shape portName =>
    obtain ⟨index, -, rfl⟩ := setShape_eq_ok_iff.1 hout
    rw [reset_eq_iff]
    split <;> simp [rule?]
  | setDeclaredShape portName =>
    obtain ⟨index, -, hnext⟩ := bind_eq_ok_iff.1 hout
    cases hnext
    rw [reset_eq_iff]
    simp [rule?]
  | reshape inputs => exact reset_of_reshape h.length_outShapes hout
  | reset =>
    cases hout
    exact launcher.reset_reset
  | rebind rule =>
    cases hout
    exact Launcher.reset_reset _

theorem holdsDeclared_of_outcome (h : launcher.HoldsDeclared) (hout : use.outcome launcher = .ok next) :
    next.HoldsDeclared := by
  cases use with
  | setShape shape portName =>
    obtain ⟨index, -, rfl⟩ := setShape_eq_ok_iff.1 hout
    cases hkind : launcher.kind with
    | constant => exact h
    | _ => simp [HoldsDeclared]
  | setDeclaredShape portName =>
    obtain ⟨index, -, hnext⟩ := bind_eq_ok_iff.1 hout
    cases hnext
    intro hkind port shape hslot
    rw [List.getElem?_set] at hslot
    split at hslot
    · next heq =>
      subst heq
      split at hslot
      · exact Option.some.inj hslot
      · cases hslot
    · exact h hkind port shape hslot
  | reshape inputs =>
    have hnext := reshape_eq_ok_iff.1 hout
    split at hnext
    · next rule hrule =>
      obtain ⟨outputs, -, -, rfl⟩ := hnext
      simp [HoldsDeclared, hrule]
    · exact hnext ▸ h
    · subst hnext
      exact h
  | reset =>
    cases hout
    intro _ port shape hslot
    rw [outShapes_reset, List.getElem?_replicate] at hslot
    simp at hslot
  | rebind rule =>
    cases hout
    simp [HoldsDeclared, Launcher.rebind]

end Use

/-- The launcher is `start` but for its kind and the shapes of a run; those of a constant are the declared
ones. -/
structure Stems (start : Launcher) (kind : LauncherKind) (launcher : Launcher) : Prop where
  reset_eq : launcher.reset = { start with kind := kind }
  holdsDeclared : launcher.HoldsDeclared

namespace Stems

variable {start launcher : Launcher} {kind : LauncherKind}

theorem kind_eq (h : Stems start kind launcher) : launcher.kind = kind := by
  rw [← kind_reset, h.reset_eq]

theorem slotted (h : Stems start kind launcher) (hstart : start.Slotted) : launcher.Slotted where
  length_outShapes := by
    have hslots := congrArg (·.outShapes.length) h.reset_eq
    have hdeclared := congrArg (·.declaredOutputs.length) h.reset_eq
    simp only [reset, List.length_map] at hslots hdeclared
    rw [hslots, hdeclared, hstart.length_outShapes]
  length_declaredOutputs := by
    have hdeclared := congrArg (·.declaredOutputs.length) h.reset_eq
    have hnames := congrArg (·.outputNames.length) h.reset_eq
    simp only [declaredOutputs_reset, outputNames_reset] at hdeclared hnames
    rw [hdeclared, hnames, hstart.length_declaredOutputs]

theorem rebind_eq (h : Stems start kind launcher) (rule : Rule) :
    launcher.rebind rule = { start with kind := .ordinary rule } := by
  have hrebind : launcher.rebind rule = { launcher.reset with kind := .ordinary rule } := rfl
  rw [hrebind, h.reset_eq]

theorem after (h : Stems start kind launcher) (hstart : start.Slotted) (use : Use) :
    Stems start (use.rule?.elim kind .ordinary) (use.after launcher) := by
  have hslotted := h.slotted hstart
  rw [Use.after_eq hslotted]
  cases hout : use.outcome launcher with
  | ok next =>
    refine ⟨?_, Use.holdsDeclared_of_outcome h.holdsDeclared hout⟩
    have hreset : next.reset = { launcher.reset with
        kind := use.rule?.elim launcher.kind .ordinary } := Use.reset_of_outcome hslotted hout
    rw [Except.toOption, Option.getD_some, hreset, h.reset_eq, h.kind_eq]
  | error cause =>
    -- a rebinding is never refused
    have hrule : use.rule? = none := by
      cases Use.outcome_eq_error_iff.1 hout <;> rfl
    rw [hrule]
    exact h

/-- The shape of a constant is the declared one, whatever its slot holds. -/
theorem outputShape_constant (h : Stems start .constant launcher) (port : Nat) :
    launcher.outputShape port = match start.declaredOutputs[port]? with
      | some shape => .ok shape
      | none => .error (.portNotFound start.layerName ("#" ++ Text.naturalText port)) := by
  have hdeclared := congrArg Launcher.declaredOutputs h.reset_eq
  have hname := congrArg Launcher.layerName h.reset_eq
  rw [declaredOutputs_reset] at hdeclared
  rw [layerName_reset] at hname
  rw [outputShape, hdeclared, hname, h.kind_eq]
  cases hport : start.declaredOutputs[port]? with
  | none => rfl
  | some declared =>
    cases hslot : launcher.outShapes[port]?.join with
    | none => rfl
    | some shape =>
      have hheld := h.holdsDeclared h.kind_eq port shape (Option.join_eq_some_iff.1 hslot)
      rw [hdeclared] at hheld
      cases hport.symm.trans hheld
      rfl

end Stems

section

variable {layer : Layer} {network : Network} {kind : LauncherKind} {start : Launcher}

theorem slotted_ofLayer (h : ofLayer layer network kind = .ok start) : start.Slotted := by
  obtain ⟨sources, -, h⟩ := bind_eq_ok_iff.1 h
  cases h
  exact ⟨by simp, by simp [length_declare]⟩

theorem stems_ofLayer (h : ofLayer layer network kind = .ok start) : Stems start kind start := by
  obtain ⟨sources, -, h⟩ := bind_eq_ok_iff.1 h
  cases h
  refine ⟨by simp [reset], fun _ port shape hslot => ?_⟩
  simp [List.getElem?_replicate] at hslot

theorem declared_ofLayer (h : ofLayer layer network kind = .ok start) :
    start.layerName = layer.name ∧ start.declaredOutputs = declare layer kind := by
  obtain ⟨sources, -, h⟩ := bind_eq_ok_iff.1 h
  cases h
  exact ⟨rfl, rfl⟩

theorem eq_constant_of_kindAfter {uses : List Use} (h : kindAfter kind uses = .constant) :
    kind = .constant := by
  unfold kindAfter at h
  cases hrule : (uses.filterMap Use.rule?).getLast? with
  | none => rwa [hrule] at h
  | some rule =>
    rw [hrule] at h
    cases h

theorem stems_history (h : ofLayer layer network kind = .ok start) (uses : List Use) :
    Stems start (kindAfter kind uses) (start.history uses) := by
  refine foldl_invariant (fun done => Stems start (kindAfter kind done)) (stems_ofLayer h) ?_
  intro done use rest launcher _ hlauncher
  have hkind : kindAfter kind (done ++ [use]) = use.rule?.elim (kindAfter kind done) .ordinary := by
    unfold kindAfter
    rw [List.filterMap_append]
    cases hrule : use.rule? <;> simp [hrule]
  rw [hkind]
  exact hlauncher.after (slotted_ofLayer h) use

/-- After every history a launcher has as many slots as declared outputs and output names. No call reaches
beyond its lists, and a refused one leaves it as it was. A reset brings back the launcher as it was made,
but for the kind that the last rebinding gave it, and so does a rebinding, with the new rule. A constant
has its declared shapes, and what is written to a layer is nothing but shapes. -/
theorem history_regular (h : ofLayer layer network kind = .ok start) (uses : List Use) :
    let launcher := start.history uses
    launcher.Slotted ∧
    (∀ use : Use, use.perform.run launcher = InPlace.ending launcher (use.outcome launcher)) ∧
    (∀ (use : Use) fault left, use.perform.run launcher = .error fault left ↔
      left = launcher ∧ ∃ cause, launcher.Refuses use cause ∧ fault = .refused cause) ∧
    (∀ port, launcher.shapeAt port = (launcher.outputShape port).mapError .refused) ∧
    (launcher.kind = .constant → ∀ port, launcher.outputShape port =
      match (declare layer .constant)[port]? with
      | some shape => .ok shape
      | none => .error (.portNotFound layer.name ("#" ++ Text.naturalText port))) ∧
    launcher.kind = kindAfter kind uses ∧
    launcher.reset = { start with kind := kindAfter kind uses } ∧
    (∀ rule, launcher.rebind rule = { start with kind := .ordinary rule }) ∧
    ∀ target : Layer,
      launcher.writeTo.run target = InPlace.ending target (launcher.applyChanges target) ∧
      ∀ changed, launcher.applyChanges target = .ok changed → changed.skeleton = target.skeleton := by
  intro launcher
  have hstems : Stems start (kindAfter kind uses) launcher := stems_history h uses
  have hslotted : launcher.Slotted := hstems.slotted (slotted_ofLayer h)
  refine ⟨hslotted, Use.run_perform hslotted, ?_, shapeAt_eq hslotted, ?_, hstems.kind_eq,
    hstems.reset_eq, hstems.rebind_eq,
    fun target => ⟨run_writeTo hslotted target, fun changed => skeleton_of_applyChanges⟩⟩
  · intro use fault left
    rw [Use.run_perform hslotted, InPlace.ending_eq_error_iff]
    simp only [Use.outcome_eq_error_iff]
  · intro hconstant
    rw [hstems.kind_eq] at hconstant
    rw [hconstant] at hstems
    rw [eq_constant_of_kindAfter hconstant] at h
    obtain ⟨hname, hdeclared⟩ := declared_ofLayer h
    rw [← hname, ← hdeclared]
    exact hstems.outputShape_constant

end

/-- A constant whose first output was described with another shape than that of its data. -/
def sampleConstant : Layer :=
  ⟨0, "weights", "Const", [], [⟨"out", [9]⟩], .empty,
    Dictionary.empty.insert "data" ⟨[2], [.zero, .zero], rfl, by decide⟩, false⟩

/-- Requests for the constant, one of them for a port it does not have. -/
def sampleUses : List Use :=
  [.setShape [7] "out", .setShape [7] "other", .setDeclaredShape "out", .reshape [[3]]]

theorem sampleConstant_regular : ∃ start, ofLayer sampleConstant (.empty "sample") .constant = .ok start ∧
    (start.history sampleUses).outputShape 0 = .ok [2] ∧ (start.history sampleUses).reset = start := by
  have hstart : ∃ start, ofLayer sampleConstant (.empty "sample") .constant = .ok start := ⟨_, rfl⟩
  obtain ⟨start, hstart⟩ := hstart
  obtain ⟨-, -, -, -, hshape, hkind, hreset, -, -⟩ := history_regular hstart sampleUses
  refine ⟨start, hstart, hshape hkind 0, ?_⟩
  cases hstart
  exact hreset

end ShapeFlow.Launcher
