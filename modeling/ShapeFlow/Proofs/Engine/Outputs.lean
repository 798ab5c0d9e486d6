import ShapeFlow.Proofs.Engine.Pull

/-!
The outputs of the launchers at the end of the loop, by kind. Only one kind can be left without a
shape: an input launcher with two outputs of one name.
-/

namespace ShapeFlow

namespace Launcher

section

variable {launcher : Launcher} {overrides : Overrides}

theorem outputs_of_computed {shapes : List Shape} (h : launcher.outShapes = shapes.map some)
    (hlength : shapes.length = launcher.declaredOutputs.length) : launcher.outputs = .ok shapes := by
  rw [outputs_eq_ok_iff]
  refine ⟨by simp [h], fun port hport => ?_⟩
  simp [outputShape, h, hport, hlength ▸ hport]

/-- The kinds that have the declared shapes where none was computed. -/
def Declares (kind : LauncherKind) : Prop :=
  kind = .constant ∨ kind = .memoryOutput ∨ kind = .passThrough

theorem outputs_of_declared (hkind : Declares launcher.kind)
    (h : ∀ (port : Nat) (shape : Shape), launcher.outShapes[port]? = some (some shape) →
      launcher.declaredOutputs[port]? = some shape)
    (hlength : launcher.outShapes.length = launcher.declaredOutputs.length) :
    launcher.outputs = .ok launcher.declaredOutputs := by
  rw [outputs_eq_ok_iff]
  refine ⟨hlength.symm, fun port hport => ?_⟩
  have hdeclared := List.getElem?_eq_getElem hport
  unfold outputShape
  rw [hdeclared]
  cases hshape : launcher.outShapes[port]? with
  | none => rcases hkind with heq | heq | heq <;> simp [heq]
  | some shape =>
    cases shape with
    | none => rcases hkind with heq | heq | heq <;> simp [heq]
    | some shape =>
      have hsame := h port shape hshape
      rw [hdeclared] at hsame
      cases hsame
      simp

theorem getElem?_outShapes_seeded {port : Nat} (hport : port < launcher.outputNames.length) :
    (launcher.seeded overrides).outShapes[port]? = some (launcher.seedShape overrides port) := by
  simp [seeded, hport]

/-- A constant is seeded with what it declares, if at all. -/
theorem seedShape_of_constant (hkind : launcher.kind = .constant) {port : Nat} {shape : Shape}
    (h : launcher.seedShape overrides port = some shape) :
    launcher.declaredOutputs[port]? = some shape := by
  rw [seedShape, hkind, Option.bind_eq_bind, Option.bind_eq_some_iff] at h
  obtain ⟨name, -, h⟩ := h
  split at h
  · cases hrequest : overrides.get? name with
    | none => simpa [hrequest] using h
    | some requested => simp [hrequest] at h
  · cases h

/-- The first output with a name is seeded with the requested or the declared shape. -/
theorem seedShape_of_first (hkind : launcher.kind = .input) {port : Nat} {name : String}
    (hname : launcher.outputNames.findIdx? (· == name) = some port) {declared : Shape}
    (hdeclared : launcher.declaredOutputs[port]? = some declared) :
    launcher.seedShape overrides port = some ((overrides.get? name).getD declared) := by
  rw [seedShape_of_findIdx? hname, hkind, hdeclared]
  cases overrides.get? name <;> rfl

theorem findIdx?_eq_of_nodup {names : List String} (hnodup : names.Nodup) {port : Nat}
    (hport : port < names.length) : names.findIdx? (· == names[port]) = some port := by
  rw [List.findIdx?_eq_some_iff_getElem]
  refine ⟨hport, by simp, fun other hother => ?_⟩
  have hne : names[other] ≠ names[port] := fun heq =>
    (Nat.ne_of_lt hother) ((hnodup.getElem_inj_iff).1 heq)
  simpa using hne

theorem outputs_of_input (hkind : launcher.kind = .input) (hnodup : launcher.outputNames.Nodup)
    (hlength : launcher.declaredOutputs.length = launcher.outputNames.length) :
    (launcher.seeded overrides).outputs = .ok ((launcher.outputNames.zip launcher.declaredOutputs).map
      fun port => (overrides.get? port.1).getD port.2) := by
  rw [outputs_eq_ok_iff]
  refine ⟨by simp [seeded, hlength], fun port hport => ?_⟩
  have hname : port < launcher.outputNames.length := by simpa [hlength] using hport
  have hdeclared := List.getElem?_eq_getElem (hlength ▸ hname)
  have hseed : launcher.seedShape overrides port = some ((overrides.get?
      launcher.outputNames[port]).getD launcher.declaredOutputs[port]) :=
    seedShape_of_first hkind (findIdx?_eq_of_nodup hnodup hname) hdeclared
  unfold outputShape
  rw [getElem?_outShapes_seeded hname, hseed]
  simp [seeded, hlength ▸ hname]

/-- Of two outputs with one name, the later one has no shape. -/
theorem outputs_of_ambiguous (hkind : launcher.kind = .input)
    (hambiguous : ¬ launcher.outputNames.Nodup)
    (hlength : launcher.declaredOutputs.length = launcher.outputNames.length) :
    ∃ cause, (launcher.seeded overrides).outputs = .error cause := by
  rw [List.nodup_iff_getElem?_ne_getElem?] at hambiguous
  push Not at hambiguous
  obtain ⟨first, port, hlt, hport, hsame⟩ := hambiguous
  have hnone : launcher.seedShape overrides port = none := by
    have hlater : launcher.outputNames.findIdx? (· == launcher.outputNames[port]) ≠ some port := by
      intro hfind
      obtain ⟨_, _, hbefore⟩ := List.findIdx?_eq_some_iff_getElem.1 hfind
      rw [List.getElem?_eq_getElem hport, List.getElem?_eq_getElem (Nat.lt_trans hlt hport)] at hsame
      exact hbefore first hlt (by simpa using hsame)
    simp [seedShape, List.getElem?_eq_getElem hport, hlater]
  cases houtputs : (launcher.seeded overrides).outputs with
  | error cause => exact ⟨cause, rfl⟩
  | ok shapes =>
    obtain ⟨hcount, hall⟩ := outputs_eq_ok_iff.1 houtputs
    have hshape := hall port (by simpa [hcount, seeded] using hport)
    unfold outputShape at hshape
    rw [getElem?_outShapes_seeded hport, hnone] at hshape
    simp [seeded, hkind, hlength ▸ hport] at hshape

end

end Launcher

/-- The shapes of the outputs of an input layer: requested under the name of the port, or declared. -/
def Layer.requestedShapes (layer : Layer) (overrides : Overrides) : List Shape :=
  layer.outputs.map fun port => (overrides.get? port.name).getD port.shape

def Layer.Unambiguous (layer : Layer) : Prop :=
  (layer.outputs.map Port.name).Nodup

namespace Reshaper

/-- What the finished set holds for a layer that had the given launcher. -/
structure Final (overrides : Overrides) (set : LauncherSet) (layer : Layer)
    (launcher final : Launcher) (inputs : List Shape) : Prop where
  get_eq : set.get layer.name = .ok final
  reset_eq : final.reset = launcher.reset
  reads : launcher.inputShapes set = .ok inputs
  keeps : launcher.kind ≠ .passThrough → final.inShapes = some inputs
  gives : match launcher.kind with
    | .ordinary rule => ∃ outputs, rule inputs layer.params layer.blobs = .ok outputs ∧
        outputs.length = layer.outputs.length ∧ final.outputs = .ok outputs
    | .input => (layer.Unambiguous → final.outputs = .ok (layer.requestedShapes overrides)) ∧
        (¬ layer.Unambiguous → ∃ cause, final.outputs = .error cause)
    | kind => final.outputs = .ok (Launcher.declare layer kind)

section

variable {network : Network} {reshaper : Reshaper} {overrides : Overrides}
  {seeded set : LauncherSet}

theorem reset_startLauncher {inputs : List String} {launcher : Launcher}
    (h : launcher.outShapes.length = launcher.outputNames.length) :
    (startLauncher inputs overrides launcher).reset = launcher.reset := by
  unfold startLauncher
  split
  · rw [Launcher.reset_seeded, Launcher.reset_reset]
    simpa [Launcher.reset] using h
  · exact Launcher.reset_reset launcher

/-- A constant, or a launcher that is not seeded, starts with nothing but declared shapes. -/
theorem outputs_start_of_declares {inputs : List String} {launcher : Launcher}
    (hkind : Launcher.Declares launcher.kind)
    (hplace : launcher.kind = .constant ∨ launcher.layerName ∉ inputs)
    (hlength : launcher.outShapes.length = launcher.declaredOutputs.length)
    (hnames : launcher.outputNames.length = launcher.declaredOutputs.length) :
    (startLauncher inputs overrides launcher).outputs = .ok launcher.declaredOutputs := by
  unfold startLauncher
  split
  · next hmem =>
    have hconst : launcher.reset.kind = .constant := by
      rcases hplace with hconst | hnot
      · exact hconst
      · exact absurd hmem hnot
    refine Launcher.outputs_of_declared hkind (fun port shape hshape => ?_) ?_
    · have hport : port < launcher.reset.outputNames.length := by
        have := (List.getElem?_eq_some_iff.1 hshape).1
        simpa [Launcher.seeded] using this
      rw [Launcher.getElem?_outShapes_seeded hport] at hshape
      exact Launcher.seedShape_of_constant hconst (Option.some.inj hshape)
    · simp [Launcher.seeded, hnames]
  · refine Launcher.outputs_of_declared hkind (fun port shape hshape => ?_) ?_
    · rw [Launcher.outShapes_reset, List.getElem?_replicate] at hshape
      split at hshape <;> cases hshape
    · simp [Launcher.outShapes_reset, hlength]

theorem mem_inputLayers_iff (hnetwork : network.WellFormed) (hmade : reshaper.MadeFor network)
    {id : LayerId} {layer : Layer} (hlayer : network.layers[id]? = some layer) :
    layer.name ∈ reshaper.inputLayers ↔ layer.id ∈ network.inputLayers := by
  rw [hmade.inputs, hnetwork.id_eq hlayer, List.mem_map]
  constructor
  · rintro ⟨id', hid', hname⟩
    rw [← Network.nameOf_eq hlayer] at hname
    rwa [← hnetwork.nameOf_inj (hnetwork.lt_of_mem_inputLayers hid')
      (List.getElem?_eq_some_iff.1 hlayer).1 hname]
  · exact fun hid => ⟨id, hid, Network.nameOf_eq hlayer⟩

section

variable {id : LayerId} {layer : Layer} {launcher : Launcher}

theorem reset_start (overrides : Overrides) (hmadeFor : launcher.MadeFor network layer)
    (inputs : List String) :
    (startLauncher inputs overrides launcher).reset = launcher.reset := by
  apply reset_startLauncher
  simp [hmadeFor.length_outShapes, hmadeFor.outputNames_eq]

/-- The outputs of a launcher before the loop, unless they are to be computed. -/
theorem outputs_start (overrides : Overrides) (hnetwork : network.WellFormed)
    (hmade : reshaper.MadeFor network) (hlayer : network.layers[id]? = some layer)
    (hmadeFor : launcher.MadeFor network layer) :
    match launcher.kind with
    | .ordinary _ => True
    | .input =>
      (layer.Unambiguous → (startLauncher reshaper.inputLayers overrides launcher).outputs =
        .ok (layer.requestedShapes overrides)) ∧
      (¬ layer.Unambiguous →
        ∃ cause, (startLauncher reshaper.inputLayers overrides launcher).outputs = .error cause)
    | kind => (startLauncher reshaper.inputLayers overrides launcher).outputs =
        .ok (Launcher.declare layer kind) := by
  have hplace : launcher.layerName ∈ reshaper.inputLayers ↔ layer.id ∈ network.inputLayers := by
    rw [hmadeFor.layerName_eq, mem_inputLayers_iff hnetwork hmade hlayer]
  have hnames : launcher.outputNames.length = launcher.declaredOutputs.length := by
    simp [hmadeFor.outputNames_eq, hmadeFor.length_declaredOutputs]
  have hlength : launcher.outShapes.length = launcher.declaredOutputs.length := by
    rw [hmadeFor.length_outShapes, hmadeFor.length_declaredOutputs]
  have hdeclared := hmadeFor.declaredOutputs_eq
  cases hkind : launcher.kind with
  | ordinary rule => trivial
  | input =>
    have hmem : launcher.layerName ∈ reshaper.inputLayers :=
      hplace.2 (hmadeFor.isInput (.inl hkind))
    have hdeclared : launcher.declaredOutputs = layer.outputShapes := by
      rw [hdeclared (by simp [hkind]), hkind]
      rfl
    have hkindReset : launcher.reset.kind = .input := hkind
    have hnamesReset : launcher.reset.outputNames = layer.outputs.map Port.name :=
      hmadeFor.outputNames_eq
    rw [startLauncher, if_pos hmem]
    constructor
    · intro hunambiguous
      rw [Launcher.outputs_of_input hkindReset (hnamesReset ▸ hunambiguous) hnames.symm]
      simp [hmadeFor.outputNames_eq, hdeclared, Layer.outputShapes, Layer.requestedShapes,
        List.zip_map', Function.comp_def]
    · intro hambiguous
      exact Launcher.outputs_of_ambiguous hkindReset (hnamesReset ▸ hambiguous) hnames.symm
  | constant =>
    dsimp only
    rw [outputs_start_of_declares (.inl hkind) (.inl hkind) hlength hnames,
      hdeclared (by simp [hkind]), hkind]
  | memoryOutput =>
    have hinterior := hmadeFor.isInterior (.inl hkind)
    dsimp only
    rw [outputs_start_of_declares (.inr (.inl hkind)) (.inr fun hmem => hinterior (hplace.1 hmem))
      hlength hnames, hdeclared (by simp [hkind]), hkind]
  | passThrough =>
    have hinterior := hmadeFor.isInterior (.inr hkind)
    dsimp only
    rw [outputs_start_of_declares (.inr (.inr hkind)) (.inr fun hmem => hinterior (hplace.1 hmem))
      hlength hnames, hdeclared (by simp [hkind]), hkind]

/-- What the loop makes of the launcher of a layer that is done. -/
theorem exists_final_of_mem (hnetwork : network.WellFormed) (hmade : reshaper.MadeFor network)
    (hseeded : Seeded reshaper overrides reshaper.inputLayers seeded) {done : List String}
    (hpulled : Pulled seeded done set) (hlayer : network.layers[id]? = some layer)
    (hget : reshaper.launchers.get layer.name = .ok launcher) (hmem : layer.name ∈ done) :
    ∃ final inputs, Final overrides set layer launcher final inputs := by
  have hmadeFor := hmade.launchers.madeFor_layer hnetwork hlayer hget
  obtain ⟨start, inputs, final, hstart, hinputs, hfinal, hfound⟩ := hpulled.computed hmem
  rw [hseeded.get_eq hget, Except.ok.injEq] at hstart
  have hreset : start.reset = launcher.reset :=
    hstart ▸ reset_start overrides hmadeFor reshaper.inputLayers
  have hstartFor := hmadeFor.of_reset hreset
  have hlength : start.outShapes.length = start.declaredOutputs.length := by
    rw [hstartFor.length_outShapes, hstartFor.length_declaredOutputs]
  have hkind := Launcher.kind_of_reset hreset
  have hgives := outputs_start overrides hnetwork hmade hlayer hmadeFor
  rw [hstart] at hgives
  have hsame : (∀ rule, launcher.kind ≠ .ordinary rule) → final.outputs = start.outputs :=
    fun hordinary => Launcher.outputs_of_reshape (hkind ▸ hordinary) hfinal
  refine ⟨final, inputs, hfound, (Launcher.reset_of_reshape hlength hfinal).trans hreset, ?_,
    fun hcase => Launcher.inShapes_of_reshape (hkind ▸ hcase) hfinal, ?_⟩
  · rwa [← Launcher.inputShapes_of_reset hreset]
  · cases hcase : launcher.kind with
    | ordinary rule =>
      have hfinal := Launcher.reshape_eq_ok_iff.1 hfinal
      rw [hkind, hcase] at hfinal
      obtain ⟨outputs, hrule, hcount, rfl⟩ := hfinal
      rw [hstartFor.params_eq, hstartFor.blobs_eq] at hrule
      exact ⟨outputs, hrule, hcount.trans hstartFor.length_declaredOutputs,
        Launcher.outputs_of_computed rfl hcount⟩
    | _ =>
      rw [hsame (by simp [hcase])]
      rw [hcase] at hgives
      exact hgives

theorem exists_final (hnetwork : network.WellFormed) (hmade : reshaper.MadeFor network)
    (hseeded : Seeded reshaper overrides reshaper.inputLayers seeded)
    (hpulled : Pulled seeded reshaper.sortedLayers set) (hlayer : network.layers[id]? = some layer)
    (hget : reshaper.launchers.get layer.name = .ok launcher) :
    ∃ final inputs, Final overrides set layer launcher final inputs :=
  exists_final_of_mem hnetwork hmade hseeded hpulled hlayer hget
    ((hmade.mem_sortedLayers_iff hnetwork).2 ⟨id, layer, hlayer, rfl⟩)

end

end

end Reshaper

end ShapeFlow
