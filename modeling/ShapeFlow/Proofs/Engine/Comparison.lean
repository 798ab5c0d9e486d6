import ShapeFlow.Proofs.Engine.Consistency
import ShapeFlow.Proofs.Engine.Propagation
import ShapeFlow.Proofs.Engine.Registry

/-!
The two engines compare layer by layer. On the networks on which both treat sources, constants and
memory cells alike, a launcher and the rule of its layer lead to the same outputs, or to the same
refusal.
-/

namespace ShapeFlow

/-- The conditions under which the two engines are to agree. -/
structure Comparable (network : Network) (registry : Registry) (overrides : Overrides) : Prop where
  extended : registry.Extended
  buildable : ∃ reshaper, (Reshaper.build network registry).outcome = .ok reshaper
  registered : ∀ layer ∈ network.layers, layer.id ∉ network.inputLayers →
    registry.contains layer.typeName = true
  inputs_eq : ∀ layer ∈ network.layers, layer.id ∈ network.inputLayers → layer.inputs = []
  /-- An input or a memory cell that is read has one output, with the name of the layer. -/
  outputs_eq : ∀ layer ∈ network.layers, layer.id ∈ network.inputLayers →
    layer.isType "input" = true ∨ layer.isType "memory" = true →
      layer.outputs.map Port.name = [layer.name]
  /-- A constant declares the dimensions of its first blob. -/
  constant_eq : ∀ layer ∈ network.layers, layer.isType "const" = true → ∀ blob port,
    layer.blobs.values.head? = some blob → layer.outputs.head? = some port → port.shape = blob.dims
  memory_eq : ∀ layer ∈ network.layers, layer.isType "memory" = true →
    layer.memorySide = .ok .write → layer.outputs = []
  /-- No shape is requested for a layer inside the network. -/
  requests : ∀ layer ∈ network.layers, layer.id ∉ network.inputLayers →
    overrides.get? layer.name = none

/-! ### The rules of sources and memory cells -/

section

variable {registry : Registry} {layer : Layer} {shapes : LayerShapes}

/-- The rule of a built-in type, in any spelling. -/
theorem Registry.Extended.get?_eq_builtIn (h : registry.Extended) {typeName : String} {rule : Rule}
    (htype : layer.isType typeName = true) (hrule : Rule.builtIn? typeName = some rule) :
    registry.get? layer.typeName = some rule := by
  rw [registry.get?_congr htype]
  exact h.get?_eq ((Registry.get?_builtIn typeName).trans hrule)

theorem Registry.Extended.get?_memory (h : registry.Extended) (htype : layer.isType "memory" = true) :
    registry.get? layer.typeName = some Rule.memory :=
  h.get?_eq_builtIn htype rfl

theorem Registry.Extended.get?_source (h : registry.Extended)
    (htype : layer.isType "input" = true ∨ layer.isType "const" = true) :
    registry.get? layer.typeName = some Rule.source := by
  rcases htype with htype | htype
  · exact h.get?_eq_builtIn htype rfl
  · exact h.get?_eq_builtIn htype rfl

theorem index_of_memorySide {side : Layer.MemorySide} (h : layer.memorySide = .ok side) :
    ∃ index, Rule.scalar? Text.integer? layer.params "index" = .ok (some index) ∧
      side = if index = 0 then .write else .read := by
  unfold Layer.memorySide at h
  split at h
  · cases h
  · next raw hraw =>
    split at h
    · cases h
    · next index hindex =>
      refine ⟨index, ?_, (Except.ok.inj h).symm⟩
      simp only [Rule.scalar?, hraw, Rule.parseScalar, hindex]
      rfl

theorem memory_of_write (h : layer.memorySide = .ok .write) (inputs : List Shape) :
    Rule.memory inputs layer.params layer.blobs = .ok [] := by
  obtain ⟨index, hindex, hside⟩ := index_of_memorySide h
  have hzero : index = 0 := by
    by_contra hne
    simp [hne] at hside
  simp only [Rule.memory, hindex, ok_bind, Rule.required, hzero, if_true]

theorem memory_of_read (h : layer.memorySide = .ok .read) (first : Shape) (rest : List Shape) :
    Rule.memory (first :: rest) layer.params layer.blobs = .ok [first] := by
  obtain ⟨index, hindex, hside⟩ := index_of_memorySide h
  have hne : index ≠ 0 := by
    rintro rfl
    simp at hside
  simp only [Rule.memory, hindex, ok_bind, Rule.required, hne, if_false, Rule.firstInput]

/-! ### One layer -/

/-- A launcher that is done holds the inputs and the outputs of its layer. -/
structure Matching (inputs : List Shape) (final : Launcher) (outputs : List Shape) : Prop where
  kind_ne : final.kind ≠ .passThrough
  inShapes_eq : final.inShapes = some inputs
  outputs_eq : final.outputs = .ok outputs

theorem alike_of_ordinary {network : Network} {start : Launcher} {rule : Rule}
    (hmadeFor : start.MadeFor network layer) (hkind : start.kind = .ordinary rule)
    (hrule : registry.get? layer.typeName = some rule) (hinputs : layer.inputs ≠ []) :
    Alike (Matching shapes.inputs) (start.reshape shapes.inputs)
      (Propagator.inferLayer registry layer shapes) := by
  have hread : Propagator.ruleInputs layer shapes = shapes.inputs := by
    simp [Propagator.ruleInputs, hinputs]
  simp only [Launcher.reshape, hkind, Propagator.inferLayer, Registry.lookup, hrule, ok_bind, hread,
    hmadeFor.params_eq, hmadeFor.blobs_eq, hmadeFor.layerName_eq, hmadeFor.length_declaredOutputs]
  cases houtputs : rule shapes.inputs layer.params layer.blobs with
  | error cause => exact .inr ⟨_, rfl, rfl⟩
  | ok outputs =>
    dsimp only
    by_cases hcount : outputs.length = layer.outputs.length
    · rw [if_pos hcount, if_pos hcount]
      refine .inl ⟨_, outputs, rfl, rfl, by simp, rfl, Launcher.outputs_of_computed rfl ?_⟩
      rw [hcount, ← hmadeFor.length_declaredOutputs]
    · rw [if_neg hcount, if_neg hcount]
      exact .inr ⟨_, rfl, rfl⟩

/-- A launcher that computes nothing matches a layer whose outputs are known. -/
theorem alike_of_known {start : Launcher} {outputs : List Shape}
    (hordinary : ∀ rule, start.kind ≠ .ordinary rule) (hpass : start.kind ≠ .passThrough)
    (hstart : start.outputs = .ok outputs)
    (hinfer : Propagator.inferLayer registry layer shapes = .ok outputs) :
    Alike (Matching shapes.inputs) (start.reshape shapes.inputs)
      (Propagator.inferLayer registry layer shapes) := by
  obtain ⟨final, hfinal⟩ : ∃ final, start.reshape shapes.inputs = .ok final := by
    unfold Launcher.reshape
    split
    · next rule hkind => exact absurd hkind (hordinary rule)
    · exact ⟨_, rfl⟩
    · exact ⟨_, rfl⟩
  refine .inl ⟨final, outputs, hfinal, hinfer, ?_, Launcher.inShapes_of_reshape hpass hfinal, ?_⟩
  · rwa [Launcher.kind_of_reshape hfinal]
  · rw [Launcher.outputs_of_reshape hordinary hfinal, hstart]

theorem requestedShapes_eq_startShapes {overrides : Overrides}
    (hnames : layer.outputs.map Port.name = [layer.name]) (hconst : layer.isType "const" = false) :
    layer.requestedShapes overrides = Propagator.startShapes overrides layer := by
  obtain ⟨port, houtputs⟩ := List.length_eq_one_iff.1 (by simpa using congrArg List.length hnames)
  have hname : port.name = layer.name := by simpa [houtputs] using hnames
  unfold Layer.requestedShapes Propagator.startShapes
  cases hrequest : overrides.get? layer.name <;>
    simp [houtputs, hname, hrequest, hconst, Layer.outputShapes]

theorem declare_constant_eq_startShapes {overrides : Overrides}
    (hconst : layer.isType "const" = true) (hdeclared : ∀ blob port,
      layer.blobs.values.head? = some blob → layer.outputs.head? = some port →
        port.shape = blob.dims) :
    Launcher.declare layer .constant = Propagator.startShapes overrides layer := by
  have hstart : Propagator.startShapes overrides layer = layer.outputShapes := by
    unfold Propagator.startShapes
    split <;> simp [hconst]
  rw [hstart, Reshaper.declare_constant]
  split
  · next blob hblob =>
    cases houtputs : layer.outputs with
    | nil => simp [Layer.outputShapes, houtputs]
    | cons port rest =>
      have hshape := hdeclared blob port hblob (by simp [houtputs])
      simp [Layer.outputShapes, houtputs, hshape]
  · rfl

end

section

variable {network : Network} {registry : Registry} {overrides : Overrides} {reshaper : Reshaper}
  {id : LayerId} {layer : Layer} {launcher : Launcher} {shapes : LayerShapes}

/-- What a source or a memory cell starts with is what its rule gives for it. -/
theorem inferLayer_of_source (h : Comparable network registry overrides)
    (hlayer : network.layers[id]? = some layer) (hplace : layer.id ∈ network.inputLayers)
    (htype : layer.isType "memory" = true ∧ layer.memorySide = .ok .read ∨
      layer.isType "input" = true ∨ layer.isType "const" = true)
    (hlength : shapes.outputs.length = layer.outputs.length) :
    Propagator.inferLayer registry layer shapes = .ok shapes.outputs := by
  have hmem := List.mem_of_getElem? hlayer
  have hread : Propagator.ruleInputs layer shapes = shapes.outputs := by
    simp [Propagator.ruleInputs, h.inputs_eq layer hmem hplace]
  rw [Propagator.inferLayer_eq_ok_iff, hread]
  rcases htype with ⟨hmemory, hside⟩ | hsource
  · have hnames := h.outputs_eq layer hmem hplace (.inr hmemory)
    have hsingle : shapes.outputs.length = 1 := by
      simpa [hlength] using congrArg List.length hnames
    obtain ⟨shape, hshape⟩ := List.length_eq_one_iff.1 hsingle
    exact ⟨_, h.extended.get?_memory hmemory, hshape ▸ memory_of_read hside shape [], hlength⟩
  · exact ⟨_, h.extended.get?_source hsource, rfl, hlength⟩

theorem alike_of_source (hnetwork : network.WellFormed) (h : Comparable network registry overrides)
    (hmade : reshaper.MadeFor network) (hlayer : network.layers[id]? = some layer)
    (hmadeFor : launcher.MadeFor network layer) (hplace : layer.id ∈ network.inputLayers)
    (hkind : layer.inputKind = .ok launcher.kind)
    (hlength : shapes.outputs.length = layer.outputs.length)
    (hshapes : shapes.outputs = Propagator.startShapes overrides layer) :
    Alike (Matching shapes.inputs)
      ((Reshaper.startLauncher reshaper.inputLayers overrides launcher).reshape shapes.inputs)
      (Propagator.inferLayer registry layer shapes) := by
  have hmem := List.mem_of_getElem? hlayer
  have hgives := Reshaper.outputs_start overrides hnetwork hmade hlayer hmadeFor
  have hstart := Launcher.kind_of_reset
    (Reshaper.reset_start overrides hmadeFor reshaper.inputLayers)
  rcases Layer.inputKind_cases hkind with ⟨heq, hrole⟩ | ⟨heq, hconst⟩
  · obtain ⟨hnames, hconst⟩ : layer.outputs.map Port.name = [layer.name] ∧
        layer.isType "const" = false := by
      rcases hrole with ⟨hmemory, -⟩ | ⟨hconst, hinput⟩
      · exact ⟨h.outputs_eq layer hmem hplace (.inr hmemory),
          Layer.isType_disjoint hmemory (by decide)⟩
      · exact ⟨h.outputs_eq layer hmem hplace (.inl hinput), hconst⟩
    rw [heq] at hgives
    have houtputs := hgives.1 (by simp [Layer.Unambiguous, hnames])
    rw [requestedShapes_eq_startShapes hnames hconst, ← hshapes] at houtputs
    exact alike_of_known (by simp [hstart, heq]) (by simp [hstart, heq]) houtputs
      (inferLayer_of_source h hlayer hplace (hrole.imp_right fun hinput => .inl hinput.2) hlength)
  · rw [heq] at hgives
    have hdeclared := h.constant_eq layer hmem hconst
    have houtputs : (Reshaper.startLauncher reshaper.inputLayers overrides launcher).outputs =
        .ok shapes.outputs := by
      rw [hshapes, ← declare_constant_eq_startShapes hconst hdeclared]
      exact hgives
    exact alike_of_known (by simp [hstart, heq]) (by simp [hstart, heq]) houtputs
      (inferLayer_of_source h hlayer hplace (.inr (.inr hconst)) hlength)

theorem alike_of_interior (hnetwork : network.WellFormed)
    (h : Comparable network registry overrides) (hmade : reshaper.MadeFor network)
    (hlayer : network.layers[id]? = some layer) (hmadeFor : launcher.MadeFor network layer)
    (hplace : layer.id ∉ network.inputLayers)
    (hkind : (layer.interiorKind registry).outcome = .ok launcher.kind) :
    Alike (Matching shapes.inputs)
      ((Reshaper.startLauncher reshaper.inputLayers overrides launcher).reshape shapes.inputs)
      (Propagator.inferLayer registry layer shapes) := by
  have hmem := List.mem_of_getElem? hlayer
  have hreset := Reshaper.reset_start overrides hmadeFor reshaper.inputLayers
  have hstart := Launcher.kind_of_reset hreset
  have hinputs : layer.inputs ≠ [] := by
    intro hnil
    refine hplace (hnetwork.mem_inputLayers_iff.2 ⟨layer, ?_, ?_⟩)
    · rwa [hnetwork.id_eq hlayer]
    · simp [Network.isInput, hnil]
  rcases Layer.interiorKind_cases hkind with ⟨hnone, -⟩ | ⟨rule, hrule, heq | ⟨heq, hmemory, hside⟩⟩
  · have hregistered := h.registered layer hmem hplace
    rw [Registry.contains, Table.contains_eq] at hregistered
    rw [Registry.get?] at hnone
    simp [hnone] at hregistered
  · exact alike_of_ordinary (hmadeFor.of_reset hreset) (hstart.trans heq) hrule hinputs
  · have hnil := h.memory_eq layer hmem hmemory hside
    have hgives := Reshaper.outputs_start overrides hnetwork hmade hlayer hmadeFor
    rw [heq] at hgives
    have houtputs : (Reshaper.startLauncher reshaper.inputLayers overrides launcher).outputs =
        .ok [] := by
      simpa [Launcher.declare, Layer.outputShapes, hnil] using hgives
    apply alike_of_known (by simp [hstart, heq]) (by simp [hstart, heq]) houtputs
    rw [Propagator.inferLayer_eq_ok_iff]
    exact ⟨_, h.extended.get?_memory hmemory, memory_of_write hside _, by simp [hnil]⟩

/-- Both engines compute alike for every layer, if they have read the same inputs. -/
theorem alike_of_layer (hnetwork : network.WellFormed) (h : Comparable network registry overrides)
    (hbuild : (Reshaper.build network registry).outcome = .ok reshaper)
    (hlayer : network.layers[id]? = some layer)
    (hget : reshaper.launchers.get layer.name = .ok launcher)
    (hlength : shapes.outputs.length = layer.outputs.length)
    (hshapes : shapes.outputs = Propagator.startShapes overrides layer) :
    Alike (Matching shapes.inputs)
      ((Reshaper.startLauncher reshaper.inputLayers overrides launcher).reshape shapes.inputs)
      (Propagator.inferLayer registry layer shapes) := by
  have hmade := (Reshaper.build_eq_ok hnetwork hbuild).1
  have hmadeFor := hmade.launchers.madeFor_layer hnetwork hlayer hget
  have hkind := Reshaper.kind_of_build hnetwork hbuild hlayer hget
  by_cases hplace : layer.id ∈ network.inputLayers
  · rw [if_pos hplace] at hkind
    exact alike_of_source hnetwork h hmade hlayer hmadeFor hplace hkind hlength hshapes
  · rw [if_neg hplace] at hkind
    exact alike_of_interior hnetwork h hmade hlayer hmadeFor hplace hkind

end

end ShapeFlow
