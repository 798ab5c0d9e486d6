import ShapeFlow.Proofs.Engine.Scratch
import ShapeFlow.Proofs.Network.History

/-!
Snapshots are written back without loss. A list of shapes is accepted exactly if it has a place for every
port; the snapshot taken afterwards is that list, and nothing but shapes has changed. So the shapes written
last are the ones that count, and a list that is refused changes nothing.
-/

namespace ShapeFlow

/-- The entry has a shape for each port of the layer, and no more. -/
def LayerShapes.Covers (entry : LayerShapes) (layer : Layer) : Prop :=
  entry.inputs.length = layer.inputs.length ∧ entry.outputs.length = layer.outputs.length

instance (entry : LayerShapes) (layer : Layer) : Decidable (entry.Covers layer) :=
  inferInstanceAs (Decidable (_ ∧ _))

theorem LayerShapes.fits_eq_true_iff {entry : LayerShapes} {layer : Layer} :
    entry.fits layer = true ↔ entry.Covers layer := by
  rw [fits, Bool.and_eq_true, beq_iff_eq, beq_iff_eq]
  exact and_congr eq_comm eq_comm

theorem LayerShapes.covers_of_skeleton {entry : LayerShapes} {a b : Layer} (h : a.skeleton = b.skeleton) :
    entry.Covers a ↔ entry.Covers b := by
  rw [Covers, Covers, Layer.length_inputs_of_skeleton h, Layer.length_outputs_of_skeleton h]

namespace Network

/-- The list has an entry for each layer, and no more. -/
def Fits (network : Network) (shapes : List LayerShapes) : Prop :=
  List.Forall₂ (fun layer entry => entry.Covers layer) network.layers shapes

/-- How a list of shapes differs from the ports of a network, at the first layer where it does. -/
inductive Misfit (network : Network) (shapes : List LayerShapes) : Mismatch → Prop
  | layerCount (h : shapes.length ≠ network.layers.length) :
      Misfit network shapes (.layerCount network.layers.length shapes.length)
  | portCount {before after : List (Layer × LayerShapes)} {layer : Layer} {entry : LayerShapes}
      (hlength : shapes.length = network.layers.length)
      (hpairs : network.layers.zip shapes = before ++ (layer, entry) :: after)
      (hbefore : ∀ pair ∈ before, pair.2.Covers pair.1) (hentry : ¬ entry.Covers layer) :
      Misfit network shapes (.portCount layer.name)

section

variable {network first next : Network} {shapes others : List LayerShapes}

theorem applyShapes_eq_ok_iff : network.applyShapes shapes = .ok next ↔
    network.Fits shapes ∧ next = { network with layers := network.layers.zipWith Layer.setShapes shapes } := by
  rw [Fits, List.forall₂_iff_zip]
  unfold applyShapes
  split
  · next hlength => simp [Ne.symm hlength]
  · next hlength =>
    rw [not_not] at hlength
    simp only [hlength, true_and]
    split
    · next pair hpair =>
      have hmisfit : ¬ pair.2.Covers pair.1 := by
        have hfits := List.find?_some hpair
        rwa [Bool.not_eq_true', ← Bool.not_eq_true, LayerShapes.fits_eq_true_iff] at hfits
      have hmem := List.mem_of_find?_eq_some hpair
      simp only [reduceCtorEq, false_iff, not_and]
      exact fun hcovers => absurd (hcovers hmem) hmisfit
    · next hnone =>
      have hcovers : ∀ {layer : Layer} {entry : LayerShapes},
          (layer, entry) ∈ network.layers.zip shapes → entry.Covers layer := by
        intro layer entry hmem
        rw [← LayerShapes.fits_eq_true_iff]
        simpa using List.find?_eq_none.1 hnone (layer, entry) hmem
      simp only [Except.ok.injEq, @eq_comm _ next]
      exact ⟨fun h => ⟨hcovers, h⟩, And.right⟩

theorem find?_eq_some_iff_misfit {pairs : List (Layer × LayerShapes)} {pair : Layer × LayerShapes} :
    pairs.find? (fun pair => !pair.2.fits pair.1) = some pair ↔ ∃ before after,
      pairs = before ++ pair :: after ∧ (∀ other ∈ before, other.2.Covers other.1) ∧
        ¬ pair.2.Covers pair.1 := by
  simp only [List.find?_eq_some_iff_append, Bool.not_eq_true', ← Bool.not_eq_true, Bool.not_not,
    LayerShapes.fits_eq_true_iff]
  constructor
  · rintro ⟨hpair, before, after, hpairs, hbefore⟩
    exact ⟨before, after, hpairs, hbefore, hpair⟩
  · rintro ⟨before, after, hpairs, hbefore, hpair⟩
    exact ⟨hpair, before, after, hpairs, hbefore⟩

theorem applyShapes_eq_error_iff {cause : NetworkError} : network.applyShapes shapes = .error cause ↔
    ∃ reason, network.Misfit shapes reason ∧ cause = .snapshotMismatch reason := by
  constructor
  · intro h
    unfold applyShapes at h
    split at h
    · next hlength =>
      cases h
      exact ⟨_, .layerCount hlength, rfl⟩
    · next hlength =>
      split at h
      · next pair hpair =>
        cases h
        obtain ⟨before, after, hpairs, hbefore, hentry⟩ := find?_eq_some_iff_misfit.1 hpair
        exact ⟨_, .portCount (not_not.1 hlength) hpairs hbefore hentry, rfl⟩
      · cases h
  · rintro ⟨reason, hmisfit, rfl⟩
    cases hmisfit with
    | layerCount hlength => simp [applyShapes, hlength]
    | portCount hlength hpairs hbefore hentry =>
      have hfirst := find?_eq_some_iff_misfit.2 ⟨_, _, hpairs, hbefore, hentry⟩
      simp [applyShapes, hlength, hfirst]

/-! ### What is written can be read -/

theorem fits_skeleton : network.skeleton.Fits shapes ↔ network.Fits shapes := by
  rw [Fits, Fits, skeleton, List.forall₂_map_left_iff]
  simp only [LayerShapes.covers_of_skeleton (Layer.skeleton_skeleton _)]

theorem fits_of_skeleton (h : first.skeleton = network.skeleton) :
    first.Fits shapes ↔ network.Fits shapes := by
  rw [← fits_skeleton, h, fits_skeleton]

theorem fits_snapshot (network : Network) : network.Fits network.snapshot := by
  rw [Fits, snapshot, List.forall₂_map_right_iff, List.forall₂_same]
  intro layer _
  exact ⟨List.length_map _, List.length_map _⟩

theorem Fits.count_eq (h : network.Fits shapes) :
    shapes.map LayerShapes.count = network.snapshot.map LayerShapes.count := by
  rw [snapshot, List.map_map]
  unfold Fits at h
  generalize network.layers = layers at h
  induction h with
  | nil => rfl
  | cons hfirst _ ih =>
    obtain ⟨hinputs, houtputs⟩ := hfirst
    rw [List.map_cons, List.map_cons, ih]
    simp [LayerShapes.count, LayerShapes.ofLayer, Layer.inputShapes, Layer.outputShapes, hinputs, houtputs]

theorem Fits.exists_entry (h : network.Fits shapes) {id : LayerId} {layer : Layer}
    (hlayer : network.layers[id]? = some layer) : ∃ entry, shapes[id]? = some entry ∧ entry.Covers layer := by
  obtain ⟨hlength, hcovers⟩ := List.forall₂_iff_get.1 h
  obtain ⟨hid, rfl⟩ := List.getElem?_eq_some_iff.1 hlayer
  exact ⟨_, List.getElem?_eq_getElem (hlength ▸ hid), hcovers id hid (hlength ▸ hid)⟩

/-- An entry can be replaced by another one for the same layer. -/
theorem Fits.set (h : network.Fits shapes) {id : LayerId} {layer : Layer} {entry : LayerShapes}
    (hlayer : network.layers[id]? = some layer) (hentry : entry.Covers layer) :
    network.Fits (shapes.set id entry) := by
  obtain ⟨hlength, hcovers⟩ := List.forall₂_iff_get.1 h
  refine List.forall₂_iff_get.2 ⟨by rw [List.length_set, hlength], fun other hother hother' => ?_⟩
  rw [List.get_eq_getElem, List.get_eq_getElem, List.getElem_set]
  split
  · next heq =>
    subst heq
    rw [List.getElem?_eq_getElem hother, Option.some.injEq] at hlayer
    exact hlayer ▸ hentry
  · exact hcovers other hother (hlength ▸ hother)

theorem exists_applyShapes_iff : (∃ next, network.applyShapes shapes = .ok next) ↔ network.Fits shapes := by
  simp only [applyShapes_eq_ok_iff, exists_and_left, exists_eq, and_true]

/-- The network that is left is the one with the same skeleton that shows the shapes. -/
theorem applyShapes_eq_ok_iff_snapshot : network.applyShapes shapes = .ok next ↔
    next.skeleton = network.skeleton ∧ next.snapshot = shapes := by
  have hwritten : ∀ {next}, network.applyShapes shapes = .ok next →
      next.skeleton = network.skeleton ∧ next.snapshot = shapes := by
    intro next h
    have hfits : network.Fits shapes := exists_applyShapes_iff.1 ⟨next, h⟩
    obtain ⟨written, hwritten, hsnapshot⟩ := applyShapes_of_count hfits.count_eq
    rw [h] at hwritten
    cases hwritten
    exact ⟨skeleton_applyShapes h, hsnapshot⟩
  constructor
  · exact hwritten
  · rintro ⟨hskeleton, rfl⟩
    have hfits : network.Fits next.snapshot := (fits_of_skeleton hskeleton).1 next.fits_snapshot
    obtain ⟨written, h⟩ := exists_applyShapes_iff.2 hfits
    obtain ⟨hskeleton', hsnapshot⟩ := hwritten h
    rw [h, eq_of_snapshot (hskeleton'.trans hskeleton.symm) hsnapshot]

/-- A list of shapes is accepted exactly if it fits. It is then what the next snapshot shows, whatever was
written before, and all else is as it was; a list that does not fit is refused with the network as it was. -/
theorem applyShapes_exact (network : Network) (shapes : List LayerShapes) :
    ((∃ next, (Call.applyShapes shapes).run network = .ok () next) ↔ network.Fits shapes) ∧
    (∀ next, (Call.applyShapes shapes).run network = .ok () next ↔
      network.applyShapes shapes = .ok next) ∧
    (∀ next, network.applyShapes shapes = .ok next ↔
      next.skeleton = network.skeleton ∧ next.snapshot = shapes) ∧
    (∀ cause left, (Call.applyShapes shapes).run network = .error cause left ↔
      left = network ∧ ∃ reason, network.Misfit shapes reason ∧ cause = .snapshotMismatch reason) ∧
    network.applyShapes network.snapshot = .ok network ∧
    ∀ others first, network.applyShapes others = .ok first →
      ∀ next, first.applyShapes shapes = .ok next ↔ network.applyShapes shapes = .ok next := by
  have hrun : ∀ next, (Call.applyShapes shapes).run network = .ok () next ↔
      network.applyShapes shapes = .ok next := by
    intro next
    rw [Call.run_applyShapes, settle_eq_ok_iff]
    cases network.applyShapes shapes <;> simp
  refine ⟨?_, hrun, fun next => applyShapes_eq_ok_iff_snapshot, ?_, ?_, ?_⟩
  · simp only [hrun, exists_applyShapes_iff]
  · intro cause left
    rw [← applyShapes_eq_error_iff, Call.run_applyShapes, settle_eq_error_iff]
    cases network.applyShapes shapes <;> simp [eq_comm, and_comm]
  · exact applyShapes_eq_ok_iff_snapshot.2 ⟨rfl, rfl⟩
  · intro others first hfirst next
    rw [applyShapes_eq_ok_iff_snapshot, applyShapes_eq_ok_iff_snapshot, skeleton_applyShapes hfirst]

end

/-- Other shapes for the ports of the sample. -/
def sampleTable : List LayerShapes :=
  [⟨[], [[7]]⟩, ⟨[[5, 5]], [[]]⟩]

-- a shape too many is not cut off
example : sample.applyShapes [⟨[], [[7]]⟩, ⟨[[5, 5], [9]], [[]]⟩] =
    .error (.snapshotMismatch (.portCount "act")) := by
  decide +kernel

theorem sample_restored : ∃ first, sample.applyShapes sampleTable = .ok first ∧ first ≠ sample ∧
    first.applyShapes sample.snapshot = .ok sample := by
  obtain ⟨-, -, -, -, hown, hlast⟩ := applyShapes_exact sample sample.snapshot
  have hfirst : ∃ first, sample.applyShapes sampleTable = .ok first ∧ first ≠ sample :=
    ⟨_, rfl, by decide +kernel⟩
  obtain ⟨first, hfirst, hne⟩ := hfirst
  exact ⟨first, hfirst, hne, (hlast sampleTable first hfirst sample).2 hown⟩

end Network

end ShapeFlow
