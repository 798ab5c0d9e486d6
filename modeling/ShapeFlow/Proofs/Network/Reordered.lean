import ShapeFlow.Proofs.Engine.Construction
import ShapeFlow.Proofs.Network.Cycle

/-!
Networks with the same layers and connections by name. They come from adding the same parts in
different orders, which gives the layers other ids and the connections other places. What the engines
see of a layer is the same in both: its role, the producers of its inputs by name, and that there is
an order.
-/

namespace ShapeFlow

/-- The layer without its place in a network. -/
def Layer.unplaced (layer : Layer) : Layer :=
  { layer with id := 0 }

namespace Layer

variable {a b : Layer}

theorem name_of_unplaced (h : a.unplaced = b.unplaced) : a.name = b.name := by
  have hname : a.unplaced.name = b.unplaced.name := by rw [h]
  exact hname

theorem eq_replaced_of_unplaced (h : a.unplaced = b.unplaced) : a = { b with id := a.id } := by
  have hreplaced : ({ a.unplaced with id := a.id } : Layer) = { b.unplaced with id := a.id } := by
    rw [h]
  exact hreplaced

end Layer

namespace Network

/-- Two networks with the same layers and the same connections by name. -/
structure Reordered (a b : Network) : Prop where
  layers_iff : ∀ layer, layer ∈ a.layers.map Layer.unplaced ↔ layer ∈ b.layers.map Layer.unplaced
  connections_iff : ∀ connection, connection ∈ a.connections.map a.describeConnection ↔
    connection ∈ b.connections.map b.describeConnection

/-- Which input of a layer is fed by what can be read off the connections by name. -/
theorem WellFormed.sourceOf?_eq_some_iff {network : Network} (h : network.WellFormed) {id : LayerId}
    {layer : Layer} (hlayer : network.layers[id]? = some layer) {port : Nat} {source : Source} :
    network.sourceOf? ⟨layer.id, port⟩ = some source ↔
      ⟨source.layer, source.port, layer.name, port⟩ ∈
        network.connections.map network.describeConnection := by
  rw [h.id_eq hlayer, sourceOf?, Option.map_eq_some_iff, List.mem_map]
  constructor
  · rintro ⟨producer, hproducer, rfl⟩
    refine ⟨_, h.producers_iff.1 hproducer, ?_⟩
    simp only [describeConnection, nameOf_eq hlayer]
  · rintro ⟨⟨producer, target⟩, hmem, hdescribed⟩
    simp only [describeConnection, ConnectionDescription.mk.injEq] at hdescribed
    obtain ⟨hname, hport, htarget, rfl⟩ := hdescribed
    obtain ⟨fed, hfed, -⟩ := h.target_exists _ hmem
    have hid : target.layer = id := by
      rw [nameOf_eq hfed] at htarget
      exact h.id_eq_of_name_eq hfed hlayer htarget
    refine ⟨producer, ?_, ?_⟩
    · rw [h.producers_iff, ← hid]
      exact hmem
    · rw [hname, hport]

theorem sourcesOf_eq (network : Network) (layer : Layer) : network.sourcesOf layer =
    (List.range layer.inputs.length).map fun port => network.sourceOf? ⟨layer.id, port⟩ := rfl

/-- A layer is an input of the network if it is flagged or nothing feeds it. -/
theorem isInput_eq (network : Network) (layer : Layer) : network.isInput layer =
    (layer.isNetworkInput || (network.sourcesOf layer).all Option.isNone) := by
  have hfree : ∀ input, (!network.producers.contains input) = (network.sourceOf? input).isNone := by
    intro input
    rw [Table.contains_eq, sourceOf?, producerOf?, Option.isNone_map]
    cases network.producers.get? input <;> rfl
  rw [isInput, sourcesOf_eq, List.all_map]
  simp only [hfree]
  rfl

/-- The layer of another network that bears the name of a layer of this one. -/
def placeIn (network other : Network) (id : LayerId) : LayerId :=
  (other.names.get? (network.nameOf id)).getD 0

theorem WellFormed.placeIn_eq {network other : Network} (h : other.WellFormed) {i j : LayerId}
    {layer : Layer} (hlayer : other.layers[j]? = some layer)
    (hname : other.nameOf j = network.nameOf i) : network.placeIn other i = j := by
  rw [nameOf_eq hlayer] at hname
  rw [placeIn, h.names_iff.2 ⟨layer, hlayer, hname⟩, Option.getD_some]

theorem descriptions_of_skeleton {a b : Network} (h : a.skeleton = b.skeleton) :
    a.connections.map a.describeConnection = b.connections.map b.describeConnection := by
  have hname : a.nameOf = b.nameOf := by
    rw [← nameOf_skeleton a, h, nameOf_skeleton]
  have hdescribe : a.describeConnection = b.describeConnection := by
    funext connection
    rw [describeConnection, describeConnection, hname]
  rw [hdescribe, (skeleton_eq_iff.1 h).2.2.1]

namespace Reordered

variable {a b : Network} {i j : LayerId} {left right : Layer}

theorem symm (h : a.Reordered b) : b.Reordered a :=
  ⟨fun layer => (h.layers_iff layer).symm, fun connection => (h.connections_iff connection).symm⟩

theorem exists_layer (h : a.Reordered b) (hleft : a.layers[i]? = some left) :
    ∃ (j : LayerId) (right : Layer), b.layers[j]? = some right ∧ right.unplaced = left.unplaced := by
  have hmem : left.unplaced ∈ b.layers.map Layer.unplaced :=
    (h.layers_iff _).1 (List.mem_map_of_mem (List.mem_of_getElem? hleft))
  obtain ⟨right, hright, hsame⟩ := List.mem_map.1 hmem
  obtain ⟨j, hj⟩ := List.mem_iff_getElem?.1 hright
  exact ⟨j, right, hj, hsame⟩

/-- Layers of one name differ in their places only. -/
theorem unplaced_eq (h : a.Reordered b) (hb : b.WellFormed) (hleft : a.layers[i]? = some left)
    (hright : b.layers[j]? = some right) (hname : right.name = left.name) :
    right.unplaced = left.unplaced := by
  obtain ⟨j', right', hright', hsame⟩ := h.exists_layer hleft
  have heq := hb.id_eq_of_name_eq hright hright' (hname.trans (Layer.name_of_unplaced hsame).symm)
  subst heq
  rw [hright, Option.some.injEq] at hright'
  rw [hright', hsame]

/-- A layer feeds the layers of the same names in both networks. -/
theorem feeds (h : a.Reordered b) (hb : b.WellFormed) (hfeeds : a.Feeds i j) :
    b.Feeds (a.placeIn b i) (a.placeIn b j) := by
  obtain ⟨connection, hmem, rfl, rfl⟩ := hfeeds
  obtain ⟨other, hother, hdescribed⟩ :=
    List.mem_map.1 ((h.connections_iff _).1 (List.mem_map_of_mem hmem))
  simp only [describeConnection, ConnectionDescription.mk.injEq] at hdescribed
  obtain ⟨hsource, -, htarget, -⟩ := hdescribed
  obtain ⟨feeding, hfeeding, -⟩ := hb.source_exists other hother
  obtain ⟨fed, hfed, -⟩ := hb.target_exists other hother
  exact ⟨other, hother, (hb.placeIn_eq hfeeding hsource).symm, (hb.placeIn_eq hfed htarget).symm⟩

section

variable (h : a.Reordered b) (ha : a.WellFormed) (hb : b.WellFormed)

include h ha hb

theorem sourcesOf_eq (hleft : a.layers[i]? = some left) (hright : b.layers[j]? = some right)
    (hsame : right.unplaced = left.unplaced) : a.sourcesOf left = b.sourcesOf right := by
  have hname := Layer.name_of_unplaced hsame
  have hlength : right.inputs.length = left.inputs.length := by
    rw [Layer.eq_replaced_of_unplaced hsame]
  rw [Network.sourcesOf_eq, Network.sourcesOf_eq, hlength]
  refine List.map_congr_left fun port _ => Option.ext fun source => ?_
  rw [ha.sourceOf?_eq_some_iff hleft, hb.sourceOf?_eq_some_iff hright, hname]
  exact h.connections_iff _

theorem mem_inputLayers_iff (hleft : a.layers[i]? = some left) (hright : b.layers[j]? = some right)
    (hsame : right.unplaced = left.unplaced) : i ∈ a.inputLayers ↔ j ∈ b.inputLayers := by
  have hflag : right.isNetworkInput = left.isNetworkInput := by
    rw [Layer.eq_replaced_of_unplaced hsame]
  have hinput : a.isInput left = b.isInput right := by
    rw [isInput_eq, isInput_eq, h.sourcesOf_eq ha hb hleft hright hsame, hflag]
  rw [ha.mem_inputLayers_iff, hb.mem_inputLayers_iff]
  simp only [hleft, hright, Option.some.injEq, exists_eq_left', hinput]

theorem exists_inputLayer (hsome : a.inputLayers ≠ []) : b.inputLayers ≠ [] := by
  obtain ⟨i, hi⟩ := List.exists_mem_of_ne_nil _ hsome
  obtain ⟨left, hleft, -⟩ := ha.mem_inputLayers_iff.1 hi
  obtain ⟨j, right, hright, hsame⟩ := h.exists_layer hleft
  exact List.ne_nil_of_mem ((h.mem_inputLayers_iff ha hb hleft hright hsame).1 hi)

/-- The one network has an order if the other has: a cycle would lead through the same names. -/
theorem exists_order (horder : ∃ order, a.topologicalOrder = .ok order) :
    ∃ order, b.topologicalOrder = .ok order := by
  obtain ⟨order, horder⟩ := horder
  cases hother : b.topologicalOrder with
  | ok order => exact ⟨order, rfl⟩
  | error cause =>
    obtain ⟨id, -, -, hcycle, -⟩ := hb.onCycle_of_error hother
    have hback : a.OnCycle (b.placeIn a id) :=
      Relation.TransGen.lift (b.placeIn a) (fun _ _ => h.symm.feeds ha) id id hcycle
    exact absurd hback ((ha.sorts horder).not_onCycle ha)

end

section

variable {a' b' : Network} (hleft : a'.skeleton = a.skeleton) (hright : b'.skeleton = b.skeleton)

include hleft hright

private theorem mem_of_skeleton (h : a.Reordered b)
    (hsame : ∀ {i j : LayerId} {left right left' right' : Layer}, a.layers[i]? = some left →
      b.layers[j]? = some right → right.unplaced = left.unplaced → a'.layers[i]? = some left' →
      b'.layers[j]? = some right' → right'.unplaced = left'.unplaced) {layer : Layer}
    (hmem : layer ∈ a'.layers.map Layer.unplaced) : layer ∈ b'.layers.map Layer.unplaced := by
  obtain ⟨left', hwritten, rfl⟩ := List.mem_map.1 hmem
  obtain ⟨i, hleft'⟩ := List.mem_iff_getElem?.1 hwritten
  obtain ⟨left, hi, -⟩ := exists_layer_of_skeleton hleft hleft'
  obtain ⟨j, right, hj, hunplaced⟩ := h.exists_layer hi
  obtain ⟨right', hright', -⟩ := exists_layer_of_skeleton hright.symm hj
  exact List.mem_map.2 ⟨right', List.mem_of_getElem? hright', hsame hi hj hunplaced hleft' hright'⟩

/-- Networks stay reordered as long as the same layers are given the same shapes. -/
theorem of_skeleton (h : a.Reordered b)
    (hsame : ∀ {i j : LayerId} {left right left' right' : Layer}, a.layers[i]? = some left →
      b.layers[j]? = some right → right.unplaced = left.unplaced → a'.layers[i]? = some left' →
      b'.layers[j]? = some right' → right'.unplaced = left'.unplaced) : a'.Reordered b' where
  layers_iff := fun _ => ⟨mem_of_skeleton hleft hright h hsame,
    mem_of_skeleton hright hleft h.symm fun hi hj hunplaced hi' hj' =>
      (hsame hj hi hunplaced.symm hj' hi').symm⟩
  connections_iff := by
    rw [descriptions_of_skeleton hleft, descriptions_of_skeleton hright]
    exact h.connections_iff

end

end Reordered

end Network

end ShapeFlow
