import Mathlib.Data.List.Basic
import ShapeFlow.Network.Snapshot

/-!
What remains of a network when its shapes are forgotten. Two networks with one skeleton differ in
port shapes only; whatever writes shapes keeps the skeleton.
-/

namespace ShapeFlow

def Port.blank (port : Port) : Port :=
  { port with shape := [] }

theorem map_blank_eq_iff {a b : List Port} :
    a.map Port.blank = b.map Port.blank ↔ a.map Port.name = b.map Port.name := by
  have hname : ∀ ports : List Port,
      ports.map Port.blank = (ports.map Port.name).map fun name => ⟨name, []⟩ := by
    intro ports
    simp [Port.blank]
  rw [hname, hname, List.map_inj_right]
  intro _ _ h
  exact congrArg Port.name h

theorem eq_of_map_name_of_map_shape {a b : List Port} (hname : a.map Port.name = b.map Port.name)
    (hshape : a.map Port.shape = b.map Port.shape) : a = b := by
  induction a generalizing b with
  | nil => simpa using hname.symm
  | cons port rest ih =>
    obtain _ | ⟨port', rest'⟩ := b
    · simp at hname
    · obtain ⟨name, shape⟩ := port
      obtain ⟨name', shape'⟩ := port'
      simp only [List.map_cons, List.cons.injEq] at hname hshape
      obtain ⟨rfl, hname⟩ := hname
      obtain ⟨rfl, hshape⟩ := hshape
      rw [ih hname hshape]

/-! ### Writing shapes to ports -/

@[simp] theorem map_name_setShapes (ports : List Port) (shapes : List Shape) :
    (setShapes ports shapes).map Port.name = ports.map Port.name := by
  fun_induction setShapes ports shapes with
  | case1 port ports shape shapes ih => simp [ih]
  | case2 => rfl

theorem map_shape_setShapes {ports : List Port} {shapes : List Shape}
    (h : shapes.length = ports.length) : (setShapes ports shapes).map Port.shape = shapes := by
  induction ports generalizing shapes with
  | nil => simp [setShapes, List.length_eq_zero_iff.1 h]
  | cons port rest ih =>
    obtain _ | ⟨shape, shapes⟩ := shapes
    · simp at h
    · simp [setShapes, ih (by simpa using h)]

theorem setShapes_map_shape (ports : List Port) : setShapes ports (ports.map Port.shape) = ports :=
  eq_of_map_name_of_map_shape (map_name_setShapes ports _) (map_shape_setShapes (List.length_map _))

namespace Layer

def skeleton (layer : Layer) : Layer :=
  { layer with inputs := layer.inputs.map Port.blank, outputs := layer.outputs.map Port.blank }

@[simp] theorem name_skeleton (layer : Layer) : layer.skeleton.name = layer.name := rfl

@[simp] theorem length_inputs_skeleton (layer : Layer) :
    layer.skeleton.inputs.length = layer.inputs.length :=
  List.length_map _

@[simp] theorem map_name_outputs_skeleton (layer : Layer) :
    layer.skeleton.outputs.map Port.name = layer.outputs.map Port.name :=
  List.map_map

@[simp] theorem length_outputs_skeleton (layer : Layer) :
    layer.skeleton.outputs.length = layer.outputs.length :=
  List.length_map _

@[simp] theorem skeleton_skeleton (layer : Layer) : layer.skeleton.skeleton = layer.skeleton := by
  simp [skeleton, Port.blank]

theorem skeleton_eq_iff {a b : Layer} : a.skeleton = b.skeleton ↔
    a.id = b.id ∧ a.name = b.name ∧ a.typeName = b.typeName ∧
      a.inputs.map Port.name = b.inputs.map Port.name ∧
      a.outputs.map Port.name = b.outputs.map Port.name ∧ a.params = b.params ∧
      a.blobs = b.blobs ∧ a.isNetworkInput = b.isNetworkInput := by
  simp only [skeleton, Layer.mk.injEq, map_blank_eq_iff]

theorem eq_of_skeleton {a b : Layer} (h : a.skeleton = b.skeleton)
    (hin : a.inputShapes = b.inputShapes) (hout : a.outputShapes = b.outputShapes) : a = b := by
  obtain ⟨hid, hname, htype, hinputs, houtputs, hparams, hblobs, hflag⟩ := skeleton_eq_iff.1 h
  have hinputs := eq_of_map_name_of_map_shape hinputs hin
  have houtputs := eq_of_map_name_of_map_shape houtputs hout
  cases a
  cases b
  simp_all

theorem name_of_skeleton {a b : Layer} (h : a.skeleton = b.skeleton) : a.name = b.name :=
  (skeleton_eq_iff.1 h).2.1

theorem length_inputs_of_skeleton {a b : Layer} (h : a.skeleton = b.skeleton) :
    a.inputs.length = b.inputs.length := by
  simpa using congrArg List.length (skeleton_eq_iff.1 h).2.2.2.1

theorem length_outputs_of_skeleton {a b : Layer} (h : a.skeleton = b.skeleton) :
    a.outputs.length = b.outputs.length := by
  simpa using congrArg List.length (skeleton_eq_iff.1 h).2.2.2.2.1

@[simp] theorem skeleton_write (layer : Layer) (inputs outputs : List Shape) :
    { layer with
      inputs := ShapeFlow.setShapes layer.inputs inputs
      outputs := ShapeFlow.setShapes layer.outputs outputs : Layer }.skeleton = layer.skeleton := by
  rw [skeleton_eq_iff]
  simp

@[simp] theorem skeleton_setShapes (layer : Layer) (shapes : LayerShapes) :
    (layer.setShapes shapes).skeleton = layer.skeleton :=
  skeleton_write layer shapes.inputs shapes.outputs

theorem ofLayer_setShapes {layer : Layer} {shapes : LayerShapes}
    (hinputs : shapes.inputs.length = layer.inputs.length)
    (houtputs : shapes.outputs.length = layer.outputs.length) :
    LayerShapes.ofLayer (layer.setShapes shapes) = shapes := by
  simp [LayerShapes.ofLayer, setShapes, inputShapes, outputShapes, map_shape_setShapes hinputs,
    map_shape_setShapes houtputs]

end Layer

namespace Network

def skeleton (network : Network) : Network :=
  { network with layers := network.layers.map Layer.skeleton }

theorem skeleton_eq_iff {a b : Network} : a.skeleton = b.skeleton ↔
    a.name = b.name ∧ a.layers.map Layer.skeleton = b.layers.map Layer.skeleton ∧
      a.connections = b.connections ∧ a.names = b.names ∧ a.producers = b.producers ∧
      a.consumers = b.consumers := by
  simp [skeleton]

theorem length_layers_of_skeleton {a b : Network} (h : a.skeleton = b.skeleton) :
    a.layers.length = b.layers.length := by
  simpa using congrArg List.length (skeleton_eq_iff.1 h).2.1

theorem layer_skeleton (network : Network) (id : LayerId) :
    network.skeleton.layer id = Layer.skeleton <$> network.layer id := by
  simp only [layer, skeleton, List.getElem?_map]
  cases network.layers[id]? <;> rfl

theorem nameOf_skeleton (network : Network) : network.skeleton.nameOf = network.nameOf := by
  funext id
  simp [nameOf, skeleton, Layer.skeleton, Function.comp_def]

/-- Networks with one skeleton have the same layers up to shapes. -/
theorem exists_layer_of_skeleton {a b : Network} (h : a.skeleton = b.skeleton) {id : LayerId}
    {layer : Layer} (hlayer : a.layers[id]? = some layer) :
    ∃ other, b.layers[id]? = some other ∧ other.skeleton = layer.skeleton := by
  have hid := congrArg (·[id]?) (skeleton_eq_iff.1 h).2.1
  simp only [List.getElem?_map, hlayer, Option.map_some] at hid
  simpa using hid.symm

theorem eq_of_skeleton {a b : Network} (h : a.skeleton = b.skeleton) (hlayers : a.layers = b.layers) :
    a = b := by
  obtain ⟨hname, -, hconnections, hnames, hproducers, hconsumers⟩ := skeleton_eq_iff.1 h
  cases a
  cases b
  simp_all

theorem eq_of_snapshot {a b : Network} (h : a.skeleton = b.skeleton) (hshapes : a.snapshot = b.snapshot) :
    a = b := by
  refine eq_of_skeleton h (List.ext_getElem? fun id => ?_)
  have hid := congrArg (·[id]?) hshapes
  simp only [snapshot, List.getElem?_map] at hid
  cases hlayer : a.layers[id]? with
  | none =>
    rw [hlayer, Option.map_none, eq_comm, Option.map_eq_none_iff] at hid
    rw [hid]
  | some layer =>
    obtain ⟨other, hother, heq⟩ := exists_layer_of_skeleton h hlayer
    rw [hlayer, hother] at hid
    simp only [Option.map_some, Option.some.injEq, LayerShapes.ofLayer, LayerShapes.mk.injEq] at hid
    rw [hother, Layer.eq_of_skeleton heq.symm hid.1 hid.2]

theorem snapshot_eq_of_layers {a b : Network} {shapes : List LayerShapes}
    (h : b.skeleton = a.skeleton) (hlength : shapes.length = a.layers.length)
    (hlayers : ∀ {id : LayerId} {layer : Layer}, a.layers[id]? = some layer →
      ∃ after, b.layers[id]? = some after ∧ shapes[id]? = some (.ofLayer after)) :
    b.snapshot = shapes := by
  apply List.ext_getElem?
  intro id
  rw [snapshot, List.getElem?_map]
  cases hlayer : a.layers[id]? with
  | none =>
    rw [List.getElem?_eq_none_iff] at hlayer
    have hnone : b.layers[id]? = none :=
      List.getElem?_eq_none (by rwa [length_layers_of_skeleton h])
    rw [hnone, Option.map_none, List.getElem?_eq_none (hlength ▸ hlayer)]
  | some layer =>
    obtain ⟨after, hafter, hshapes⟩ := hlayers hlayer
    rw [hafter, hshapes, Option.map_some]

theorem skeleton_applyShapes {network next : Network} {shapes : List LayerShapes}
    (h : network.applyShapes shapes = .ok next) : next.skeleton = network.skeleton := by
  unfold applyShapes at h
  split at h
  · cases h
  · next hlength =>
    split at h
    · cases h
    · cases h
      refine skeleton_eq_iff.2 ⟨rfl, ?_, rfl, rfl, rfl, rfl⟩
      apply List.ext_getElem?
      intro id
      simp only [List.getElem?_map, List.getElem?_zipWith]
      by_cases hid : id < network.layers.length
      · have hid' : id < shapes.length := by omega
        simp [hid, hid']
      · simp [hid]

theorem skeleton_modifyLayer {network next : Network} {id : LayerId} {change : Layer → Layer}
    (hchange : ∀ layer, network.layers[id]? = some layer → (change layer).skeleton = layer.skeleton)
    (h : network.modifyLayer id change = .ok next) : next.skeleton = network.skeleton := by
  unfold modifyLayer layer at h
  cases hid : network.layers[id]? with
  | none =>
    rw [hid] at h
    cases h
  | some layer =>
    rw [hid] at h
    cases h
    refine skeleton_eq_iff.2 ⟨rfl, ?_, rfl, rfl, rfl, rfl⟩
    apply List.ext_getElem?
    intro other
    simp only [List.getElem?_map, List.getElem?_set]
    split
    · next heq =>
      subst heq
      obtain ⟨hlt, hget⟩ := List.getElem?_eq_some_iff.1 hid
      simp [hlt, hget, hchange layer hid]
    · rfl

end Network

end ShapeFlow
