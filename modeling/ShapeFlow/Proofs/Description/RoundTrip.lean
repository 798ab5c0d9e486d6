import ShapeFlow.Proofs.Description.Records
import ShapeFlow.Proofs.Network.Parts

/-!
A network survives being written as a text and read again. Its description is read back from the
text, and adding the described layers and connections in order makes the network they describe: none
of them is refused, and the tables come out in the same order.
-/

namespace ShapeFlow

/-- Neither an infinity nor a NaN. -/
def Binary.Single.Finite (number : Binary.Single) : Prop :=
  number.low < 0x7f800000

theorem exists_token_of_finite {number : Binary.Single} (h : number.Finite) :
    ∃ token, NumberToken.ofSingle? number = some token := by
  have hfield : number.low / 0x800000 ≠ 255 := by
    unfold Binary.Single.Finite at h
    omega
  have hmagnitude : ∃ magnitude, number.magnitude? = some magnitude := by
    simp only [Binary.Single.magnitude?, if_neg hfield]
    split <;> exact ⟨_, rfl⟩
  obtain ⟨magnitude, hmagnitude⟩ := hmagnitude
  exact ⟨_, by rw [NumberToken.ofSingle?, hmagnitude, Option.map_some]⟩

namespace Network

/-! ### Layers and connections -/

theorem toTensor_describeBlob (tensor : Tensor) (layer name : String) :
    (describeBlob tensor).toTensor layer name = .ok tensor := by
  have hmade : Tensor.ofValues tensor.dims tensor.values = .ok tensor := by
    rw [Tensor.ofValues, dif_pos tensor.extent_le, if_neg (by simp [tensor.length_eq]),
      dif_pos tensor.length_eq]
  simp only [BlobDescription.toTensor, describeBlob, hmade]

theorem toBlobs_describeLayer (layer : Layer) : (describeLayer layer).toBlobs = .ok layer.blobs := by
  have hstep : (fun (blobs : Blobs) (entry : String × Tensor) => (do
      let tensor ← (describeBlob entry.2).toTensor layer.name entry.1
      .ok (blobs.insert entry.1 tensor) : Except DescriptionError Blobs)) =
        fun blobs entry => pure (blobs.insert entry.1 entry.2) := by
    funext blobs entry
    rw [toTensor_describeBlob]
    rfl
  rw [LayerDescription.toBlobs, describeLayer, Dictionary.map]
  simp only [List.foldlM_map, hstep, List.foldlM_pure]
  exact congrArg Except.ok layer.blobs.ofList_entries

theorem toLayer_describeLayer (layer : Layer) :
    (describeLayer layer).toLayer = .ok { layer with id := 0 } := by
  rw [LayerDescription.toLayer, toBlobs_describeLayer]
  rfl

variable {network : Network}

theorem exists_layered (h : network.Built) :
    ∃ layered, network.describe.layers.foldlM NetworkDescription.addLayer (.empty network.name) =
      .ok layered ∧
      layered.Built ∧ layered.name = network.name ∧ layered.layers = network.layers ∧
        layered.connections = [] := by
  have hwf := h.wellFormed
  rw [describe, List.foldlM_map]
  refine foldlM_total (fun done (made : Network) => made.Built ∧ made.name = network.name ∧
    made.layers = done ∧ made.connections = []) ⟨.empty _, rfl, rfl, rfl⟩ ?_
  rintro done layer rest made hsplit ⟨hmade, hname, rfl, hconnections⟩
  have hlayer : network.layers[made.layers.length]? = some layer := by
    rw [hsplit, List.getElem?_append_right (Nat.le_refl _), Nat.sub_self]
    rfl
  -- an earlier layer of that name would share it with this one in the network, too
  have hfresh : made.names.contains layer.name = false := by
    rw [Table.contains_eq, Option.isSome_eq_false_iff, Option.isNone_iff_eq_none,
      Option.eq_none_iff_forall_ne_some]
    intro id hid
    obtain ⟨other, hother, hsame⟩ := hmade.wellFormed.names_iff.1 hid
    have hlt : id < made.layers.length := (List.getElem?_eq_some_iff.1 hother).1
    have hother' : network.layers[id]? = some other := by
      rw [hsplit, List.getElem?_append_left hlt, hother]
    exact Nat.ne_of_lt hlt (hwf.id_eq_of_name_eq hother' hlayer hsame)
  have hid : layer.id = made.layers.length := hwf.id_eq hlayer
  have hadd : made.addLayer { layer with id := 0 } = .ok (made.layers.length, { made with
      layers := made.layers ++ [layer]
      names := made.names.insert layer.name made.layers.length }) := by
    simp only [Network.addLayer, hfresh, ← hid]
    rfl
  refine ⟨_, ?_, hmade.addLayer hadd, hname, rfl, hconnections⟩
  simp only [NetworkDescription.addLayer, toLayer_describeLayer, ok_bind, hadd]

theorem exists_connected (h : network.Built) {layered : Network} (hlayered : layered.Built)
    (hlayers : layered.layers = network.layers) (hnone : layered.connections = []) :
    ∃ made, network.describe.connections.foldlM NetworkDescription.addConnection layered =
      .ok made ∧ made.Built ∧ made.name = layered.name ∧ made.layers = network.layers ∧
        made.connections = network.connections := by
  have hwf := h.wellFormed
  rw [describe, List.foldlM_map]
  refine foldlM_total (fun done (made : Network) => made.Built ∧ made.name = layered.name ∧
    made.layers = network.layers ∧ made.connections = done) ⟨hlayered, rfl, hlayers, hnone⟩ ?_
  rintro done ⟨source, target⟩ rest made hsplit ⟨hmade, hname, hlayers, rfl⟩
  have hmem : ⟨source, target⟩ ∈ network.connections := by simp [hsplit]
  obtain ⟨producer, hproducer, hsource⟩ := hwf.source_exists _ hmem
  obtain ⟨consumer, hconsumer, htarget⟩ := hwf.target_exists _ hmem
  -- an earlier connection to the target would be a second one in the network
  have hfree : made.producerOf? target = none := by
    rw [Option.eq_none_iff_forall_ne_some]
    intro other hother
    have htargets := hwf.targets_nodup
    rw [hsplit, List.map_append, List.nodup_append] at htargets
    exact htargets.2.2 target
      (List.mem_map_of_mem (hmade.wellFormed.producers_iff.1 hother)) target (by simp) rfl
  have hports := connectPorts_eq_ok_iff.2
    ⟨⟨producer, hlayers ▸ hproducer, hsource⟩, ⟨consumer, hlayers ▸ hconsumer, htarget⟩, hfree, rfl⟩
  have hnamed : ∀ {id layer}, network.layers[id]? = some layer →
      made.names.get? (network.nameOf id) = some id := by
    intro id layer hlayer
    exact hmade.wellFormed.names_iff.2 ⟨layer, hlayers ▸ hlayer, (nameOf_eq hlayer).symm⟩
  have hconnect := connect_eq_ok_iff.2
    ⟨source.layer, target.layer, hnamed hproducer, hnamed hconsumer, hports⟩
  refine ⟨_, ?_, hmade.connect hconnect, hname, hlayers, rfl⟩
  simp only [NetworkDescription.addConnection, describeConnection, hconnect]

/-- A network is rebuilt from its description. -/
theorem toNetwork_describe (h : network.Built) : network.describe.toNetwork = .ok network := by
  obtain ⟨layered, hlayered, hbuilt, hname, hlayers, hnone⟩ := exists_layered h
  obtain ⟨made, hmade, hbuilt', hname', hlayers', hconnections⟩ :=
    exists_connected h hbuilt hlayers hnone
  have heq : made = network := hbuilt'.eq_of_parts h (hname'.trans hname) hlayers' hconnections
  exact bind_eq_ok_iff.2 ⟨layered, hlayered, heq ▸ hmade⟩

/-! ### Texts -/

/-- The values of the constant data of all layers. -/
def constants (network : Network) : List Binary.Single :=
  network.layers.flatMap fun layer => layer.blobs.values.flatMap Tensor.values

theorem readable_describe (hfinite : ∀ value ∈ network.constants, value.Finite)
    (hnumbers : ∀ value ∈ network.constants, ∀ token ∈ NumberToken.ofSingle? value,
      token.single? = some value) :
    ∀ layer ∈ network.describe.layers, ∀ blob ∈ layer.blobs.values, Json.Readable blob := by
  intro described hdescribed blob hblob values hvalues value hvalue
  obtain ⟨layer, hlayer, rfl⟩ := List.mem_map.1 hdescribed
  obtain ⟨entry, hentry, rfl⟩ := List.mem_map.1 hblob
  obtain ⟨original, horiginal, rfl⟩ := List.mem_map.1 hentry
  cases hvalues
  have hmem : value ∈ network.constants :=
    List.mem_flatMap.2 ⟨layer, hlayer, List.mem_flatMap.2
      ⟨original.2, List.mem_map_of_mem horiginal, hvalue⟩⟩
  obtain ⟨token, htoken⟩ := exists_token_of_finite (hfinite value hmem)
  simp only [Json.ofSingle, htoken]
  exact hnumbers value hmem token htoken

/-- A network is read back from its text, as long as the numbers in its constant data are. -/
theorem parse_toJsonText (h : network.Built)
    (hports : ∀ connection ∈ network.connections,
      connection.source.port < UInt64.size ∧ connection.target.port < UInt64.size)
    (hfinite : ∀ value ∈ network.constants, value.Finite)
    (hnumbers : ∀ value ∈ network.constants, ∀ token ∈ NumberToken.ofSingle? value,
      token.single? = some value) :
    parse network.toJsonText = .ok network := by
  have htext : Json.read? network.toJsonText = some (Json.ofNetwork network.describe) :=
    Json.read?_pretty (Json.valid_ofNetwork network.describe)
  have hdescription : Json.network? (Json.ofNetwork network.describe) = some network.describe :=
    Json.network?_ofNetwork (readable_describe hfinite hnumbers) (List.forall_mem_map.2 hports)
  simp only [parse, htext, Option.bind_eq_bind, Option.bind_some, hdescription]
  exact toNetwork_describe h

/-- One half, minus one tenth and the largest number of single precision. -/
def sampleTensor : Tensor :=
  ⟨[3, 1], [⟨0x3f000000⟩, ⟨0xbdcccccd⟩, ⟨0x7f7fffff⟩], by decide, by decide⟩

/-- Constant data that feeds a flagged activation, under names that need escapes. -/
def sampleWeights : Network where
  name := "naïve \"net\"\n"
  layers := [⟨0, "w\\", "Const", [], [⟨"w", [3, 1]⟩], .empty,
      Dictionary.empty.insert "custom" sampleTensor, false⟩,
    ⟨1, "活", "ReLU", [⟨"x", [3, 1]⟩], [⟨"", []⟩], Dictionary.empty.insert "slope" "0", .empty, true⟩]
  connections := [⟨⟨0, 0⟩, ⟨1, 0⟩⟩]
  names := (Table.empty.insert "w\\" 0).insert "活" 1
  producers := Table.empty.insert ⟨1, 0⟩ ⟨0, 0⟩
  consumers := Table.empty.insert ⟨0, 0⟩ [⟨1, 0⟩]

theorem built_sampleWeights : sampleWeights.Built := by
  have hweights : (Network.empty "naïve \"net\"\n").addLayer
      ⟨0, "w\\", "Const", [], [⟨"w", [3, 1]⟩], .empty,
        Dictionary.empty.insert "custom" sampleTensor, false⟩ = .ok (0, _) := rfl
  have hact := @Built.addLayer _ _ ⟨0, "活", "ReLU", [⟨"x", [3, 1]⟩], [⟨"", []⟩],
    Dictionary.empty.insert "slope" "0", .empty, true⟩ 1 (.addLayer (.empty _) hweights) rfl
  exact @Built.connectPorts _ _ ⟨0, 0⟩ ⟨1, 0⟩ hact rfl

theorem sampleWeights_parse : parse sampleWeights.toJsonText = .ok sampleWeights :=
  parse_toJsonText built_sampleWeights (by decide)
    (by simp only [Binary.Single.Finite]; decide) (by decide +kernel)

end Network

end ShapeFlow
