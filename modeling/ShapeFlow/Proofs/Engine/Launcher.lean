import ShapeFlow.Engine.Launcher
import ShapeFlow.Proofs.Network.Skeleton
import ShapeFlow.Proofs.Outcome

/-!
What the operations on one launcher and on a set of launchers do. A launcher is compared with others
after a reset: two launchers that are equal then were made for the same layer with the same rule, and
may differ in the shapes of a run. A set of launchers is known by its look-up.
-/

namespace ShapeFlow

namespace Launcher

@[simp] theorem reset_reset (launcher : Launcher) : launcher.reset.reset = launcher.reset := by
  simp [reset]

@[simp] theorem layerName_reset (launcher : Launcher) :
    launcher.reset.layerName = launcher.layerName := rfl

@[simp] theorem kind_reset (launcher : Launcher) : launcher.reset.kind = launcher.kind := rfl

@[simp] theorem outputNames_reset (launcher : Launcher) :
    launcher.reset.outputNames = launcher.outputNames := rfl

@[simp] theorem declaredOutputs_reset (launcher : Launcher) :
    launcher.reset.declaredOutputs = launcher.declaredOutputs := rfl

theorem outShapes_reset (launcher : Launcher) :
    launcher.reset.outShapes = List.replicate launcher.outShapes.length none :=
  List.map_const' ..

/-- Launchers that agree after a reset differ in the shapes of a run only. -/
theorem reset_eq_iff {a b : Launcher} : a.reset = b.reset ↔
    a.layerName = b.layerName ∧ a.layerType = b.layerType ∧ a.kind = b.kind ∧
      a.params = b.params ∧ a.blobs = b.blobs ∧ a.sources = b.sources ∧
      a.outputNames = b.outputNames ∧ a.declaredInputs = b.declaredInputs ∧
      a.declaredOutputs = b.declaredOutputs ∧ a.outShapes.length = b.outShapes.length := by
  have hlength : (a.outShapes.map fun _ => (none : Option Shape)) = b.outShapes.map (fun _ => none) ↔
      a.outShapes.length = b.outShapes.length := by
    simp [List.map_const']
  simp only [reset, Launcher.mk.injEq, hlength, true_and]

theorem layerName_of_reset {a b : Launcher} (h : a.reset = b.reset) : a.layerName = b.layerName :=
  (reset_eq_iff.1 h).1

theorem kind_of_reset {a b : Launcher} (h : a.reset = b.reset) : a.kind = b.kind :=
  (reset_eq_iff.1 h).2.2.1

theorem inputShapes_of_reset {a b : Launcher} (h : a.reset = b.reset) (set : LauncherSet) :
    a.inputShapes set = b.inputShapes set := by
  obtain ⟨-, -, -, -, -, hsources, -, hinputs, -, -⟩ := reset_eq_iff.1 h
  rw [inputShapes, inputShapes, hsources, hinputs]

/-! ### Computing shapes -/

def outputs (launcher : Launcher) : Except EngineError (List Shape) :=
  (List.range launcher.outShapes.length).mapM launcher.outputShape

theorem outputs_eq_ok_iff {launcher : Launcher} {shapes : List Shape} :
    launcher.outputs = .ok shapes ↔ shapes.length = launcher.outShapes.length ∧
      ∀ port (h : port < shapes.length), launcher.outputShape port = .ok shapes[port] := by
  rw [outputs, mapM_eq_ok_iff, List.forall₂_iff_get]
  simp only [List.length_range, List.get_eq_getElem, List.getElem_range]
  constructor
  · rintro ⟨hlength, hall⟩
    exact ⟨hlength.symm, fun port h => hall port (by omega) h⟩
  · rintro ⟨hlength, hall⟩
    exact ⟨hlength.symm, fun port _ h => hall port h⟩

theorem getElem?_outputs {launcher : Launcher} {shapes : List Shape} {port : Nat} {shape : Shape}
    (hlength : launcher.outShapes.length = launcher.declaredOutputs.length)
    (h : launcher.outputs = .ok shapes) (hport : launcher.outputShape port = .ok shape) :
    shapes[port]? = some shape := by
  obtain ⟨hcount, hall⟩ := outputs_eq_ok_iff.1 h
  have hlt : port < shapes.length := by
    rw [hcount, hlength]
    by_contra hge
    simp [outputShape, List.getElem?_eq_none (Nat.not_lt.1 hge)] at hport
  have hsame := hall port hlt
  rw [hport, Except.ok.injEq] at hsame
  rw [List.getElem?_eq_getElem hlt, hsame]

/-- The outputs an ordinary launcher computes; other launchers compute none. -/
theorem reshape_eq_ok_iff {launcher next : Launcher} {inputs : List Shape} :
    launcher.reshape inputs = .ok next ↔
      match launcher.kind with
      | .ordinary rule => ∃ outputs, rule inputs launcher.params launcher.blobs = .ok outputs ∧
          outputs.length = launcher.declaredOutputs.length ∧
          next = { launcher with outShapes := outputs.map some, inShapes := some inputs }
      | .passThrough => next = launcher
      | _ => next = { launcher with inShapes := some inputs } := by
  unfold reshape
  cases launcher.kind with
  | ordinary rule =>
    dsimp only
    cases rule inputs launcher.params launcher.blobs with
    | error cause => simp
    | ok outputs =>
      by_cases hlength : outputs.length = launcher.declaredOutputs.length
      · simp [hlength, eq_comm]
      · simp [hlength]
  | _ => simp [eq_comm]

theorem reset_of_reshape {launcher next : Launcher} {inputs : List Shape}
    (hlength : launcher.outShapes.length = launcher.declaredOutputs.length)
    (h : launcher.reshape inputs = .ok next) : next.reset = launcher.reset := by
  have h := reshape_eq_ok_iff.1 h
  split at h
  · obtain ⟨outputs, -, houtputs, rfl⟩ := h
    rw [reset_eq_iff]
    simp [houtputs, hlength]
  · rw [h]
  · rw [h]
    rfl

theorem inShapes_of_reshape {launcher next : Launcher} {inputs : List Shape}
    (hkind : launcher.kind ≠ .passThrough) (h : launcher.reshape inputs = .ok next) :
    next.inShapes = some inputs := by
  have h := reshape_eq_ok_iff.1 h
  split at h
  · obtain ⟨outputs, -, -, rfl⟩ := h
    rfl
  · next heq => exact absurd heq hkind
  · rw [h]

theorem outputs_congr {a b : Launcher} (hname : a.layerName = b.layerName) (hkind : a.kind = b.kind)
    (hdeclared : a.declaredOutputs = b.declaredOutputs) (hshapes : a.outShapes = b.outShapes) :
    a.outputs = b.outputs := by
  have hport : a.outputShape = b.outputShape := by
    funext port
    unfold outputShape
    rw [hname, hkind, hdeclared, hshapes]
  rw [outputs, outputs, hport, hshapes]

theorem outputs_of_reshape {launcher next : Launcher} {inputs : List Shape}
    (hkind : ∀ rule, launcher.kind ≠ .ordinary rule) (h : launcher.reshape inputs = .ok next) :
    next.outputs = launcher.outputs := by
  have h := reshape_eq_ok_iff.1 h
  split at h
  · next rule heq => exact absurd heq (hkind rule)
  · rw [h]
  · rw [h]
    exact outputs_congr rfl rfl rfl rfl

theorem layerName_of_reshape {launcher next : Launcher} {inputs : List Shape}
    (h : launcher.reshape inputs = .ok next) : next.layerName = launcher.layerName := by
  have h := reshape_eq_ok_iff.1 h
  split at h
  · obtain ⟨outputs, -, -, rfl⟩ := h
    rfl
  · rw [h]
  · rw [h]

theorem kind_of_reshape {launcher next : Launcher} {inputs : List Shape}
    (h : launcher.reshape inputs = .ok next) : next.kind = launcher.kind := by
  have h := reshape_eq_ok_iff.1 h
  split at h
  · obtain ⟨outputs, -, -, rfl⟩ := h
    rfl
  · rw [h]
  · rw [h]

/-! ### Writing shapes to a layer -/

theorem applyChanges_eq_ok_iff {launcher : Launcher} {layer changed : Layer} :
    launcher.applyChanges layer = .ok changed ↔
      match launcher.kind with
      | .passThrough => changed = layer
      | _ => layer.name = launcher.layerName ∧ layer.outputs.length = launcher.outShapes.length ∧
          ∃ shapes, launcher.outputs = .ok shapes ∧
            changed = { layer with
              inputs := setShapes layer.inputs (launcher.inShapes.getD [])
              outputs := setShapes layer.outputs shapes } := by
  have hwrite : (if layer.name ≠ launcher.layerName ∨
        layer.outputs.length ≠ launcher.outShapes.length then
        .error (.layerNotFound launcher.layerName)
      else launcher.outputs >>= fun shapes => .ok { layer with
        inputs := setShapes layer.inputs (launcher.inShapes.getD [])
        outputs := setShapes layer.outputs shapes } : Except EngineError Layer) = .ok changed ↔
      layer.name = launcher.layerName ∧ layer.outputs.length = launcher.outShapes.length ∧
        ∃ shapes, launcher.outputs = .ok shapes ∧
          changed = { layer with
            inputs := setShapes layer.inputs (launcher.inShapes.getD [])
            outputs := setShapes layer.outputs shapes } := by
    split
    · next hne => simp only [reduceCtorEq, false_iff]; tauto
    · next heq =>
      simp only [not_or, not_not] at heq
      simp only [bind_eq_ok_iff, Except.ok.injEq, heq, true_and, @eq_comm _ changed]
  unfold applyChanges
  cases launcher.kind with
  | passThrough => simp [eq_comm]
  | _ => exact hwrite

theorem skeleton_of_applyChanges {launcher : Launcher} {layer changed : Layer}
    (h : launcher.applyChanges layer = .ok changed) : changed.skeleton = layer.skeleton := by
  have h := applyChanges_eq_ok_iff.1 h
  split at h
  · rw [h]
  · obtain ⟨-, -, shapes, -, rfl⟩ := h
    exact Layer.skeleton_write layer _ shapes

end Launcher

namespace LauncherSet

/-- Names lead to the launchers that bear them. -/
structure WellFormed (set : LauncherSet) : Prop where
  index_iff : ∀ {name : String} {slot : Nat}, set.index.get? name = some slot ↔
    ∃ launcher, set.launchers[slot]? = some launcher ∧ launcher.layerName = name

theorem get_eq_ok_iff {set : LauncherSet} {name : String} {launcher : Launcher} :
    set.get name = .ok launcher ↔
      ∃ slot, set.index.get? name = some slot ∧ set.launchers[slot]? = some launcher := by
  rw [← Option.bind_eq_some_iff]
  unfold get
  simp only [Option.bind_eq_bind]
  split
  · next found hfound => simp [hfound]
  · next hfound => simp [hfound]

namespace WellFormed

variable {set : LauncherSet}

theorem layerName_eq (h : set.WellFormed) {name : String} {launcher : Launcher}
    (hget : set.get name = .ok launcher) : launcher.layerName = name := by
  obtain ⟨slot, hslot, hlauncher⟩ := get_eq_ok_iff.1 hget
  obtain ⟨launcher', hlauncher', hname⟩ := h.index_iff.1 hslot
  rw [hlauncher'] at hlauncher
  cases hlauncher
  exact hname

theorem get_of_mem (h : set.WellFormed) {launcher : Launcher} (hmem : launcher ∈ set.launchers) :
    set.get launcher.layerName = .ok launcher := by
  obtain ⟨slot, hslot⟩ := List.mem_iff_getElem?.1 hmem
  exact get_eq_ok_iff.2 ⟨slot, h.index_iff.2 ⟨launcher, hslot, rfl⟩, hslot⟩

theorem empty : LauncherSet.empty.WellFormed :=
  ⟨by simp [LauncherSet.empty]⟩

theorem insert (h : set.WellFormed) (launcher : Launcher) : (set.insert launcher).WellFormed := by
  constructor
  intro name slot
  unfold LauncherSet.insert
  split
  · next place hplace =>
    -- the launcher takes the place of an older one of its name
    obtain ⟨old, hold, hname⟩ := h.index_iff.1 hplace
    obtain ⟨hlt, -⟩ := List.getElem?_eq_some_iff.1 hold
    rw [h.index_iff, List.getElem?_set]
    split
    · next heq =>
      subst heq
      simp only [hold, Option.some.injEq, exists_eq_left', hname]
    · rfl
  · next hfresh =>
    have hnone : ∀ other ∈ set.launchers, other.layerName ≠ launcher.layerName := by
      intro other hother heq
      obtain ⟨slot, hslot⟩ := List.mem_iff_getElem?.1 hother
      simp [h.index_iff.2 ⟨other, hslot, heq⟩] at hfresh
    simp only [Table.get?_insert, beq_iff_eq, List.getElem?_append]
    split
    · next heq =>
      subst heq
      split
      · next hlt =>
        have hold : set.launchers[slot]? = some set.launchers[slot] := List.getElem?_eq_getElem hlt
        simp only [hold, Option.some.injEq, exists_eq_left']
        constructor
        · rintro rfl
          omega
        · exact fun hname => absurd hname (hnone _ (List.getElem_mem hlt))
      · next hge =>
        by_cases heq : slot = set.launchers.length
        · simp [heq]
        · have hbeyond : slot - set.launchers.length ≠ 0 := by omega
          simp [hbeyond, Ne.symm heq]
    · next hne =>
      rw [h.index_iff]
      split
      · rfl
      · next hge =>
        by_cases heq : slot = set.launchers.length
        · simp [heq, hne]
        · have hbeyond : slot - set.launchers.length ≠ 0 := by omega
          simp [hbeyond, List.getElem?_eq_none (Nat.not_lt.1 hge)]

theorem get_insert (h : set.WellFormed) (launcher : Launcher) (name : String) :
    (set.insert launcher).get name =
      if name = launcher.layerName then .ok launcher else set.get name := by
  unfold LauncherSet.insert
  split
  · next place hplace =>
    obtain ⟨old, hold, hname⟩ := h.index_iff.1 hplace
    obtain ⟨hlt, -⟩ := List.getElem?_eq_some_iff.1 hold
    by_cases heq : name = launcher.layerName
    · subst heq
      simp [get, hplace, hlt]
    · simp only [get, heq, if_false]
      cases hslot : set.index.get? name with
      | none => simp
      | some slot =>
        have hne : place ≠ slot := by
          rintro rfl
          obtain ⟨launcher', hlauncher', hname'⟩ := h.index_iff.1 hslot
          rw [hold] at hlauncher'
          cases hlauncher'
          exact heq (hname'.symm.trans hname)
        simp [hne]
  · next hfresh =>
    simp only [get, Table.get?_insert, beq_iff_eq]
    by_cases heq : name = launcher.layerName
    · subst heq
      simp
    · simp only [Ne.symm heq, heq, if_false]
      cases hslot : set.index.get? name with
      | none => simp
      | some slot =>
        obtain ⟨launcher', hlauncher', -⟩ := h.index_iff.1 hslot
        obtain ⟨hlt, -⟩ := List.getElem?_eq_some_iff.1 hlauncher'
        simp [List.getElem?_append_left hlt]

theorem reset (h : set.WellFormed) : set.reset.WellFormed := by
  constructor
  intro name slot
  simp only [LauncherSet.reset, h.index_iff, List.getElem?_map, Option.map_eq_some_iff]
  constructor
  · rintro ⟨launcher, hlauncher, hname⟩
    exact ⟨launcher.reset, ⟨launcher, hlauncher, rfl⟩, hname⟩
  · rintro ⟨-, ⟨launcher, hlauncher, rfl⟩, hname⟩
    exact ⟨launcher, hlauncher, hname⟩

end WellFormed

theorem get_reset (set : LauncherSet) (name : String) :
    set.reset.get name = Launcher.reset <$> set.get name := by
  unfold get
  cases hslot : set.index.get? name with
  | none =>
    simp only [reset, hslot]
    rfl
  | some slot =>
    cases hlauncher : set.launchers[slot]? with
    | none => simp [reset, hslot, hlauncher]
    | some launcher => simp [reset, hslot, hlauncher]

theorem exists_get_of_reset {a b : LauncherSet} (h : a.reset = b.reset) {name : String}
    {launcher : Launcher} (hget : a.get name = .ok launcher) :
    ∃ other, b.get name = .ok other ∧ other.reset = launcher.reset := by
  have hreset := get_reset b name
  rw [← h, get_reset, hget] at hreset
  exact map_eq_ok_iff.1 hreset.symm

/-- Storing a launcher with new shapes only is undone by a reset. -/
theorem reset_insert {set : LauncherSet} {launcher old : Launcher}
    (hget : set.get launcher.layerName = .ok old) (hreset : launcher.reset = old.reset) :
    (set.insert launcher).reset = set.reset := by
  obtain ⟨slot, hslot, hold⟩ := get_eq_ok_iff.1 hget
  simp only [LauncherSet.insert, hslot, LauncherSet.reset, LauncherSet.mk.injEq, and_true]
  apply List.ext_getElem?
  intro other
  simp only [List.getElem?_map, List.getElem?_set]
  split
  · next heq =>
    subst heq
    obtain ⟨hlt, -⟩ := List.getElem?_eq_some_iff.1 hold
    simp only [hlt, hold, if_true, Option.map_some, hreset]
  · rfl

theorem reshape_eq_ok_iff {set next : LauncherSet} {name : String} :
    set.reshape name = .ok next ↔ ∃ launcher inputs reshaped, set.get name = .ok launcher ∧
      launcher.inputShapes set = .ok inputs ∧ launcher.reshape inputs = .ok reshaped ∧
        next = set.insert reshaped := by
  simp only [LauncherSet.reshape, bind_eq_ok_iff, Except.ok.injEq, exists_and_left,
    @eq_comm _ next]

end LauncherSet

end ShapeFlow
