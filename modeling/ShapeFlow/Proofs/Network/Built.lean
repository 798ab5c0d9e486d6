import ShapeFlow.Description.Json
import ShapeFlow.Proofs.Engine.WriteBack
import ShapeFlow.Run.Infer

/-!
The networks that can be made: from an empty one, by adding layers and connections, by writing shapes,
and by running an engine. They keep the representation invariant, and a network read from a text is
one of them.
-/

namespace ShapeFlow.Network

/-- The network comes from an empty one by operations that were accepted. -/
inductive Built : Network → Prop
  | empty (name : String) : Built (Network.empty name)
  | addLayer {network next : Network} {layer : Layer} {id : LayerId} (h : Built network)
      (hadd : network.addLayer layer = .ok (id, next)) : Built next
  | connectPorts {network next : Network} {source target : PortRef} (h : Built network)
      (hconnect : network.connectPorts source target = .ok next) : Built next
  | applyShapes {network next : Network} {shapes : List LayerShapes} (h : Built network)
      (happly : network.applyShapes shapes = .ok next) : Built next
  | run {network : Network} (h : Built network) (reshaper : Reshaper) (overrides : Overrides) :
      Built (reshaper.run network overrides).network

namespace Built

variable {network next : Network}

theorem wellFormed (h : network.Built) : network.WellFormed := by
  induction h with
  | empty name => exact .empty name
  | addLayer _ hadd ih => exact ih.addLayer hadd
  | connectPorts _ hconnect ih => exact ih.connectPorts hconnect
  | applyShapes _ happly ih => exact ih.of_skeleton (skeleton_applyShapes happly)
  | run _ reshaper overrides ih => exact ih.of_skeleton (Reshaper.skeleton_run _ _ _)

theorem connect (h : network.Built) {source target : String} {sourcePort targetPort : Nat}
    (hconnect : network.connect source sourcePort target targetPort = .ok next) : next.Built := by
  obtain ⟨sourceId, targetId, -, -, hports⟩ := connect_eq_ok_iff.1 hconnect
  exact h.connectPorts hports

private theorem addDescribedLayer (h : network.Built) {layer : LayerDescription}
    (hadd : NetworkDescription.addLayer network layer = .ok next) : next.Built := by
  obtain ⟨made, -, hadd⟩ := bind_eq_ok_iff.1 hadd
  split at hadd
  · next hmade =>
    cases hadd
    exact h.addLayer hmade
  · cases hadd

private theorem addDescribedConnection (h : network.Built) {connection : ConnectionDescription}
    (hadd : NetworkDescription.addConnection network connection = .ok next) : next.Built := by
  unfold NetworkDescription.addConnection at hadd
  split at hadd
  · next hconnect =>
    cases hadd
    exact h.connect hconnect
  · cases hadd

theorem toNetwork {description : NetworkDescription} (h : description.toNetwork = .ok network) :
    network.Built := by
  obtain ⟨layered, hlayers, hconnections⟩ := bind_eq_ok_iff.1 h
  have hlayered : layered.Built :=
    foldlM_invariant (fun _ => Built) (.empty description.name)
      (fun _ _ _ _ _ _ hstate hnext => hstate.addDescribedLayer hnext) hlayers
  exact foldlM_invariant (fun _ => Built) hlayered
    (fun _ _ _ _ _ _ hstate hnext => hstate.addDescribedConnection hnext) hconnections

theorem parse {text : String} (h : Network.parse text = .ok network) : network.Built := by
  unfold Network.parse at h
  split at h
  · exact toNetwork h
  · cases h

theorem inferShapes (h : network.Built) (registry : Registry) (config : RunConfig) :
    (network.inferShapes registry config).network.Built := by
  unfold Network.inferShapes
  cases config.mode with
  | legacy =>
    dsimp only
    unfold inferLegacy
    dsimp only
    split
    · exact h
    · exact h.run _ _
  | transactional =>
    dsimp only
    unfold inferTransactional
    dsimp only
    split
    · exact h
    · next result hinferred =>
      simp only [propagateInto, Journal.outcome_bind, bind_eq_ok_iff, Journal.outcome_lift,
        Journal.outcome_pure, Journal.outcome_note] at hinferred
      obtain ⟨shapes, -, written, happly, -, -, hresult⟩ := hinferred
      cases hresult
      exact h.applyShapes (EngineError.ofNetwork_eq_ok_iff.1 happly)

end Built

/-! ### A network of two layers -/

/-- An input that feeds an activation. -/
def sample : Network where
  name := "sample"
  layers := [⟨0, "data", "Input", [], [⟨"data", [1, 4]⟩], .empty, .empty, false⟩,
    ⟨1, "act", "ReLU", [⟨"in", [1, 4]⟩], [⟨"out", [1, 4]⟩], .empty, .empty, false⟩]
  connections := [⟨⟨0, 0⟩, ⟨1, 0⟩⟩]
  names := (Table.empty.insert "data" 0).insert "act" 1
  producers := Table.empty.insert ⟨1, 0⟩ ⟨0, 0⟩
  consumers := Table.empty.insert ⟨0, 0⟩ [⟨1, 0⟩]

def sampleRequest : Overrides :=
  Dictionary.empty.insert "data" [2, 4]

theorem built_sample : sample.Built := by
  have hdata : (Network.empty "sample").addLayer
      ⟨0, "data", "Input", [], [⟨"data", [1, 4]⟩], .empty, .empty, false⟩ = .ok (0, _) := rfl
  have hact := @Built.addLayer _ _
    ⟨0, "act", "ReLU", [⟨"in", [1, 4]⟩], [⟨"out", [1, 4]⟩], .empty, .empty, false⟩ 1
    (.addLayer (.empty "sample") hdata) rfl
  exact @Built.connectPorts _ _ ⟨0, 0⟩ ⟨1, 0⟩ hact rfl

end ShapeFlow.Network
