import ShapeFlow.Engine.Propagator
import ShapeFlow.Proofs.Network.WellFormed

/-!
The table of shapes that a propagation works on, by its ports: what writing one input changes, what
handing on the outputs of a layer changes, and when the table can be written to a network.
-/

namespace ShapeFlow

def inputAt (scratch : List LayerShapes) (input : PortRef) : Option Shape :=
  scratch[input.layer]?.bind fun shapes => shapes.inputs[input.port]?

def outputAt (scratch : List LayerShapes) (output : PortRef) : Option Shape :=
  scratch[output.layer]?.bind fun shapes => shapes.outputs[output.port]?

namespace Network

def inputShape? (network : Network) (input : PortRef) : Option Shape :=
  inputAt network.snapshot input

def outputShape? (network : Network) (output : PortRef) : Option Shape :=
  outputAt network.snapshot output

end Network

/-- The numbers of inputs and outputs of a layer. -/
def LayerShapes.count (shapes : LayerShapes) : Nat × Nat :=
  (shapes.inputs.length, shapes.outputs.length)

def setInput (shape : Shape) (scratch : List LayerShapes) (target : PortRef) : List LayerShapes :=
  scratch.modify target.layer fun shapes =>
    { shapes with inputs := shapes.inputs.set target.port shape }

section

variable {scratch : List LayerShapes} {shape : Shape} {target input output : PortRef}

/-! ### Writing one input -/

theorem inputAt_setInput (scratch : List LayerShapes) (shape : Shape) (target input : PortRef) :
    inputAt (setInput shape scratch target) input =
      if target = input then (inputAt scratch input).map fun _ => shape
      else inputAt scratch input := by
  obtain ⟨layer, port⟩ := target
  obtain ⟨layer', port'⟩ := input
  simp only [inputAt, setInput, List.getElem?_modify, PortRef.mk.injEq]
  by_cases hlayer : layer = layer'
  · cases hshapes : scratch[layer']? with
    | none => simp
    | some shapes =>
      simp only [hlayer, if_true, Option.bind_some, true_and]
      by_cases hport : port = port'
      · by_cases hlt : port' < shapes.inputs.length <;> simp [hport, hlt]
      · simp [hport]
  · simp [hlayer]

@[simp] theorem map_outputs_setInput (scratch : List LayerShapes) (shape : Shape)
    (target : PortRef) :
    (setInput shape scratch target).map LayerShapes.outputs =
      scratch.map LayerShapes.outputs := by
  apply List.ext_getElem?
  intro id
  simp only [setInput, List.getElem?_map, List.getElem?_modify]
  split <;> cases scratch[id]? <;> rfl

@[simp] theorem map_count_setInput (scratch : List LayerShapes) (shape : Shape)
    (target : PortRef) :
    (setInput shape scratch target).map LayerShapes.count = scratch.map LayerShapes.count := by
  apply List.ext_getElem?
  intro id
  simp only [setInput, List.getElem?_map, List.getElem?_modify]
  split <;> cases scratch[id]? <;> simp [LayerShapes.count]

theorem getElem?_setInput_of_ne {id : LayerId} (h : target.layer ≠ id) :
    (setInput shape scratch target)[id]? = scratch[id]? := by
  simp [setInput, h]

end

namespace Propagator

/-! ### Handing on the outputs of a layer -/

def feedAll (network : Network) (id : LayerId) (outputs : List Shape) (scratch : List LayerShapes) :
    List LayerShapes :=
  ((List.range outputs.length).zip outputs).foldl (feed network id) scratch

section

variable {network : Network} {id other : LayerId} {scratch : List LayerShapes}
  {outputs : List Shape} {input : PortRef}

theorem feed_eq (network : Network) (id : LayerId) (scratch : List LayerShapes)
    (output : Nat × Shape) :
    feed network id scratch output =
      (network.consumersOf ⟨id, output.1⟩).foldl (setInput output.2) scratch := rfl

/-- What writing an input keeps is kept when an output is handed on. -/
theorem feed_keeps {α : Type} (view : List LayerShapes → α) {output : Nat × Shape}
    (hview : ∀ target ∈ network.consumersOf ⟨id, output.1⟩, ∀ scratch shape,
      view (setInput shape scratch target) = view scratch) :
    view (feed network id scratch output) = view scratch := by
  rw [feed_eq]
  apply foldl_invariant (fun _ state => view state = view scratch) rfl
  intro done target rest state htargets hstate
  rw [hview target (by simp [htargets]), hstate]

theorem feedAll_keeps {α : Type} (view : List LayerShapes → α)
    (hview : ∀ port, ∀ target ∈ network.consumersOf ⟨id, port⟩, ∀ scratch shape,
      view (setInput shape scratch target) = view scratch) :
    view (feedAll network id outputs scratch) = view scratch := by
  apply foldl_invariant (fun _ state => view state = view scratch) rfl
  intro _ output _ state _ hstate
  rw [feed_keeps view (hview output.1), hstate]

@[simp] theorem map_outputs_feedAll (network : Network) (id : LayerId) (outputs : List Shape)
    (scratch : List LayerShapes) :
    (feedAll network id outputs scratch).map LayerShapes.outputs =
      scratch.map LayerShapes.outputs :=
  feedAll_keeps (List.map LayerShapes.outputs) fun _ _ _ _ _ => map_outputs_setInput _ _ _

@[simp] theorem map_count_feedAll (network : Network) (id : LayerId) (outputs : List Shape)
    (scratch : List LayerShapes) :
    (feedAll network id outputs scratch).map LayerShapes.count = scratch.map LayerShapes.count :=
  feedAll_keeps (List.map LayerShapes.count) fun _ _ _ _ _ => map_count_setInput _ _ _

theorem getElem?_feedAll_of_not_fed
    (h : ∀ port, ∀ target ∈ network.consumersOf ⟨id, port⟩, target.layer ≠ other) :
    (feedAll network id outputs scratch)[other]? = scratch[other]? :=
  feedAll_keeps (fun state => state[other]?) fun port target htarget _ _ =>
    getElem?_setInput_of_ne (h port target htarget)

theorem inputAt_feedAll_of_not_fed (h : ∀ port, input ∉ network.consumersOf ⟨id, port⟩) :
    inputAt (feedAll network id outputs scratch) input = inputAt scratch input := by
  refine feedAll_keeps (fun state => inputAt state input) fun port target htarget _ _ => ?_
  have hne : target ≠ input := fun heq => h port (heq ▸ htarget)
  simp only [inputAt_setInput, hne, if_false]

private theorem inputAt_feed_of_mem {output : Nat × Shape}
    (h : input ∈ network.consumersOf ⟨id, output.1⟩) (hsome : (inputAt scratch input).isSome) :
    inputAt (feed network id scratch output) input = some output.2 := by
  have hreached : (inputAt (feed network id scratch output) input).isSome ∧
      (input ∈ network.consumersOf ⟨id, output.1⟩ →
        inputAt (feed network id scratch output) input = some output.2) := by
    rw [feed_eq]
    refine foldl_invariant (fun done state => (inputAt state input).isSome ∧
      (input ∈ done → inputAt state input = some output.2)) ⟨hsome, by simp⟩ ?_
    rintro done target rest state - ⟨hstate, hdone⟩
    obtain ⟨old, hold⟩ := Option.isSome_iff_exists.1 hstate
    rw [inputAt_setInput, hold]
    by_cases heq : target = input
    · simp [heq]
    · refine ⟨by simp [heq], fun hmem => ?_⟩
      have hbefore : input ∈ done := by
        simpa [Ne.symm heq] using hmem
      simpa [heq, hold] using hdone hbefore
  exact hreached.2 h

private theorem getElem?_of_mem_zip {place : Nat} {shape : Shape}
    (h : (place, shape) ∈ (List.range outputs.length).zip outputs) :
    outputs[place]? = some shape := by
  obtain ⟨slot, hslot⟩ := List.mem_iff_getElem?.1 h
  obtain ⟨hplace, hshape⟩ := List.getElem?_zip_eq_some.1 hslot
  rw [List.getElem?_range (List.getElem?_eq_some_iff.1 hshape).1] at hplace
  cases hplace
  exact hshape

/-- An input that the handing layer feeds gets the shape of the output. An input has one producer, so
that no later output writes it again. -/
theorem inputAt_feedAll_of_fed (hnetwork : network.WellFormed) {port : Nat} {shape : Shape}
    (hproducer : network.producerOf? input = some ⟨id, port⟩) (hshape : outputs[port]? = some shape)
    (hsome : (inputAt scratch input).isSome) :
    inputAt (feedAll network id outputs scratch) input = some shape := by
  have hreached : (inputAt (feedAll network id outputs scratch) input).isSome ∧
      (port ∈ ((List.range outputs.length).zip outputs).map Prod.fst →
        inputAt (feedAll network id outputs scratch) input = some shape) := by
    refine foldl_invariant (fun done state => (inputAt state input).isSome ∧
      (port ∈ done.map Prod.fst → inputAt state input = some shape)) ⟨hsome, by simp⟩ ?_
    rintro done ⟨port', shape'⟩ rest state hitems ⟨hstate, hdone⟩
    have hshape' : outputs[port']? = some shape' := getElem?_of_mem_zip (by simp [hitems])
    by_cases hport : port' = port
    · subst hport
      rw [hshape] at hshape'
      cases hshape'
      have hfed : inputAt (feed network id state (port', shape)) input = some shape :=
        inputAt_feed_of_mem (hnetwork.mem_consumersOf_iff.2 hproducer) hstate
      exact ⟨by simp [hfed], fun _ => hfed⟩
    · have hkept : inputAt (feed network id state (port', shape')) input = inputAt state input := by
        refine feed_keeps (fun state => inputAt state input) fun target htarget _ _ => ?_
        have hne : target ≠ input := by
          rintro rfl
          have hother := hnetwork.mem_consumersOf_iff.1 htarget
          rw [hproducer] at hother
          cases hother
          exact hport rfl
        simp only [inputAt_setInput, hne, if_false]
      rw [hkept]
      exact ⟨hstate, fun hmem => hdone (by simpa [Ne.symm hport] using hmem)⟩
  obtain ⟨hlt, -⟩ := List.getElem?_eq_some_iff.1 hshape
  apply hreached.2
  rw [List.map_fst_zip (by simp)]
  exact List.mem_range.2 hlt

end

end Propagator

/-! ### Writing the table to a network -/

/-- A table with a place for every port is accepted, and can be read off the network afterwards. -/
theorem Network.applyShapes_of_count {network : Network} {scratch : List LayerShapes}
    (h : scratch.map LayerShapes.count = network.snapshot.map LayerShapes.count) :
    ∃ next, network.applyShapes scratch = .ok next ∧ next.snapshot = scratch := by
  have hlength : scratch.length = network.layers.length := by
    simpa [snapshot] using congrArg List.length h
  have hfits : ∀ {id : LayerId} {layer : Layer} {shapes : LayerShapes},
      network.layers[id]? = some layer → scratch[id]? = some shapes →
      layer.inputs.length = shapes.inputs.length ∧ layer.outputs.length = shapes.outputs.length := by
    intro id layer shapes hlayer hshapes
    have hcount := congrArg (·[id]?) h
    simp only [snapshot, List.getElem?_map, hlayer, hshapes, Option.map_some, Option.some.injEq,
      LayerShapes.count, LayerShapes.ofLayer, Layer.inputShapes, Layer.outputShapes,
      List.length_map, Prod.mk.injEq] at hcount
    exact ⟨hcount.1.symm, hcount.2.symm⟩
  have happly : network.applyShapes scratch =
      .ok { network with layers := network.layers.zipWith Layer.setShapes scratch } := by
    have hnone : ((network.layers.zip scratch).find? fun pair => !pair.2.fits pair.1) = none := by
      rw [List.find?_eq_none]
      rintro ⟨layer, shapes⟩ hmem
      obtain ⟨id, hid⟩ := List.mem_iff_getElem?.1 hmem
      obtain ⟨hlayer, hshapes⟩ := List.getElem?_zip_eq_some.1 hid
      simp [LayerShapes.fits, hfits hlayer hshapes]
    simp only [applyShapes, hlength, ne_eq, not_true_eq_false, if_false, hnone]
  refine ⟨_, happly, snapshot_eq_of_layers (skeleton_applyShapes happly) hlength ?_⟩
  intro id layer hlayer
  have hid : id < scratch.length := hlength ▸ (List.getElem?_eq_some_iff.1 hlayer).1
  have hshapes : scratch[id]? = some scratch[id] := List.getElem?_eq_getElem hid
  obtain ⟨hinputs, houtputs⟩ := hfits hlayer hshapes
  refine ⟨layer.setShapes scratch[id], ?_, ?_⟩
  · rw [List.getElem?_zipWith, hlayer, hshapes]
  · rw [hshapes, Layer.ofLayer_setShapes hinputs.symm houtputs.symm]

end ShapeFlow
