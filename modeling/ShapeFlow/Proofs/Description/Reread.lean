import ShapeFlow.Proofs.Description.Faults
import ShapeFlow.Proofs.Description.RoundTrip
import ShapeFlow.Proofs.Json.Magnitude

/-!
Which written networks can be read. A number beyond single precision is read as an infinity, an
infinity is written as null, and null is not a number: the text of a network is read again exactly if
its constant data is finite. The values that are read may differ from those that were written, but they
have no part in the faults of a description.
-/

namespace ShapeFlow

/-! ### Numbers -/

namespace Binary.Single

theorem magnitude?_eq_none {number : Single} (h : ¬ number.Finite) : number.magnitude? = none := by
  have hlow : number.low < 0x80000000 := Nat.mod_lt _ (by omega)
  have hfield : number.low / 0x800000 = 255 := by
    unfold Finite at h
    omega
  rw [magnitude?]
  exact if_pos hfield

theorem exists_single?_iff {number : Single} :
    (∃ again, Json.single? (Json.ofSingle number) = some again) ↔ number.Finite := by
  constructor
  · rintro ⟨again, hagain⟩
    by_contra hinfinite
    rw [Json.ofSingle, NumberToken.ofSingle?, magnitude?_eq_none hinfinite] at hagain
    cases hagain
  · intro hfinite
    obtain ⟨token, htoken⟩ := exists_token_of_finite hfinite
    rw [Json.ofSingle, htoken]
    exact NumberToken.exists_single?_ofSingle? htoken

/-- The number that is read from what is written for a number. -/
def reread (number : Single) : Single :=
  (Json.single? (Json.ofSingle number)).getD number

theorem single?_eq_reread {number : Single} (h : number.Finite) :
    Json.single? (Json.ofSingle number) = some number.reread := by
  obtain ⟨again, hagain⟩ := exists_single?_iff.2 h
  rw [reread, hagain, Option.getD_some]

end Binary.Single

/-! ### Faults do not depend on the values -/

section

variable (change : Binary.Single → Binary.Single)

theorem Tensor.defects_map (dims : Shape) (values : List Binary.Single) :
    defects dims (values.map change) = defects dims values := by
  unfold defects
  rw [List.length_map]

theorem BlobDescription.faults_mapValues (blob : BlobDescription) (layer name : String) :
    (blob.mapValues change).faults layer name = blob.faults layer name := by
  obtain ⟨dims, _ | values⟩ := blob
  · rfl
  · simp only [mapValues, faults, Option.map_some, Tensor.defects_map]

theorem LayerDescription.faults_mapValues (before : List LayerDescription) (layer : LayerDescription) :
    (layer.mapValues change).faults (before.map (mapValues change)) = layer.faults before := by
  simp [faults, mapValues, Dictionary.map, List.flatMap_map, BlobDescription.faults_mapValues]

theorem ConnectionDescription.faults_mapValues (layers : List LayerDescription) :
    faults (layers.map (LayerDescription.mapValues change)) = faults layers := by
  have hports : ∀ (layer : LayerDescription) (direction : PortDirection),
      (layer.mapValues change).ports direction = layer.ports direction := by
    intro layer direction
    cases direction <;> rfl
  have hname : ∀ layer : LayerDescription, (layer.mapValues change).name = layer.name :=
    fun layer => rfl
  funext before connection
  simp [faults, nameFaults, portFaults, hports, hname]

theorem NetworkDescription.faults_mapValues (description : NetworkDescription) :
    (description.mapValues change).faults = description.faults := by
  have hlayers : faultsAfter LayerDescription.faults []
      (description.layers.map (LayerDescription.mapValues change)) =
        faultsAfter LayerDescription.faults [] description.layers := by
    refine (faultsAfter_map (LayerDescription.mapValues change) [] description.layers).trans ?_
    congr 1
    funext before layer
    exact layer.faults_mapValues change before
  rw [faults, faults]
  simp only [mapValues, hlayers, ConnectionDescription.faults_mapValues]

end

/-! ### Ports -/

namespace Json

theorem port_lt {fields : List (String × Json)} {name : String} {port : Nat}
    (h : optional fields name 0 portNumber? = some port) : port < UInt64.size := by
  rcases optional_eq_some h with rfl | ⟨json, hjson⟩
  · decide
  · obtain ⟨dim, -, rfl⟩ := Option.map_eq_some_iff.1 hjson
    exact dim.toNat_lt_size

theorem ports_lt_of_connection? {json : Json} {connection : ConnectionDescription}
    (h : connection? json = some connection) :
    connection.sourcePort < UInt64.size ∧ connection.targetPort < UInt64.size := by
  simp only [connection?, Option.bind_eq_bind, Option.bind_eq_some_iff] at h
  obtain ⟨fields, -, source, -, sourcePort, hsource, target, -, targetPort, htarget, heq⟩ := h
  cases heq
  exact ⟨port_lt hsource, port_lt htarget⟩

theorem ports_lt_of_network? {json : Json} {description : NetworkDescription}
    (h : network? json = some description) : ∀ connection ∈ description.connections,
      connection.sourcePort < UInt64.size ∧ connection.targetPort < UInt64.size := by
  simp only [network?, Option.bind_eq_bind, Option.bind_eq_some_iff] at h
  obtain ⟨fields, -, name, -, layers, -, connections, hconnections, heq⟩ := h
  cases heq
  intro connection hmem
  rcases optional_eq_some hconnections with rfl | ⟨json, hjson⟩
  · cases hmem
  · unfold list? at hjson
    split at hjson
    · obtain ⟨item, -, hitem⟩ := exists_item_of_mapM_some hjson hmem
      exact ports_lt_of_connection? hitem
    · cases hjson

end Json

/-! ### Texts -/

namespace Network

theorem parse_eq_ok_iff {text : String} {network : Network} : parse text = .ok network ↔
    ∃ description, (Json.read? text >>= Json.network?) = some description ∧
      description.toNetwork = .ok network := by
  unfold parse
  cases Json.read? text >>= Json.network? with
  | none => simp
  | some description => simp

/-- The ports of a network that was read from a text fit into a word. -/
theorem ports_lt_of_parse {text : String} {network : Network} (h : parse text = .ok network) :
    ∀ connection ∈ network.connections,
      connection.source.port < UInt64.size ∧ connection.target.port < UInt64.size := by
  obtain ⟨description, hread, hmade⟩ := parse_eq_ok_iff.1 h
  obtain ⟨json, -, hdescription⟩ := Option.bind_eq_some_iff.1 hread
  have hdescribe : network.describe = description.filled := by
    have hdecided := description.decided_toNetwork
    rw [hmade] at hdecided
    generalize description.faults = faults at hdecided
    cases hdecided with
    | accepted hnetwork => exact hnetwork.2
  intro connection hmem
  have hdescribed : network.describeConnection connection ∈ description.connections := by
    have hconnections : network.connections.map network.describeConnection = description.connections :=
      congrArg NetworkDescription.connections hdescribe
    rw [← hconnections]
    exact List.mem_map_of_mem hmem
  exact Json.ports_lt_of_network? hdescription _ hdescribed

variable {network : Network}

theorem read?_toJsonText (network : Network) :
    (Json.read? network.toJsonText >>= Json.network?) =
      Json.network? (Json.ofNetwork network.describe) := by
  have htext : Json.read? network.toJsonText = some (Json.ofNetwork network.describe) :=
    Json.read?_pretty (Json.valid_ofNetwork network.describe)
  rw [htext]
  rfl

theorem mem_constants {layer : Layer} {tensor : Tensor} {value : Binary.Single}
    (hlayer : layer ∈ network.layers) (htensor : tensor ∈ layer.blobs.values)
    (hvalue : value ∈ tensor.values) : value ∈ network.constants :=
  List.mem_flatMap.2 ⟨layer, hlayer, List.mem_flatMap.2 ⟨tensor, htensor, hvalue⟩⟩

theorem exists_parse_of_finite (h : network.Built)
    (hports : ∀ connection ∈ network.connections,
      connection.source.port < UInt64.size ∧ connection.target.port < UInt64.size)
    (hfinite : ∀ value ∈ network.constants, value.Finite) :
    ∃ again, parse network.toJsonText = .ok again := by
  have hread : ∀ layer ∈ network.describe.layers, ∀ blob ∈ layer.blobs.values,
      Json.ReadAs Binary.Single.reread blob := by
    intro described hdescribed blob hblob values hvalues value hvalue
    obtain ⟨layer, hlayer, rfl⟩ := List.mem_map.1 hdescribed
    obtain ⟨entry, hentry, rfl⟩ := List.mem_map.1 hblob
    obtain ⟨original, horiginal, rfl⟩ := List.mem_map.1 hentry
    cases hvalues
    have hmem : value ∈ network.constants :=
      mem_constants hlayer (List.mem_map_of_mem horiginal) hvalue
    exact Binary.Single.single?_eq_reread (hfinite value hmem)
  have hdescription := Json.network?_ofNetwork_mapValues hread (List.forall_mem_map.2 hports)
  have hfaults : (network.describe.mapValues Binary.Single.reread).faults = [] := by
    have hdecided := network.describe.decided_toNetwork
    rw [toNetwork_describe h] at hdecided
    rw [NetworkDescription.faults_mapValues]
    exact hdecided.eq_nil_of_ok
  have hmade := (network.describe.mapValues Binary.Single.reread).decided_toNetwork
  rw [hfaults] at hmade
  obtain ⟨again, hagain, -⟩ := hmade.exists_ok
  exact ⟨again, parse_eq_ok_iff.2 ⟨_, (read?_toJsonText network).trans hdescription, hagain⟩⟩

theorem parse_of_infinite
    (hports : ∀ connection ∈ network.connections,
      connection.source.port < UInt64.size ∧ connection.target.port < UInt64.size)
    (hinfinite : ∃ value ∈ network.constants, ¬ value.Finite) :
    parse network.toJsonText = .error .malformed := by
  obtain ⟨value, hvalue, hinfinite⟩ := hinfinite
  obtain ⟨layer, hlayer, hvalue⟩ := List.mem_flatMap.1 hvalue
  obtain ⟨tensor, htensor, hvalue⟩ := List.mem_flatMap.1 hvalue
  have hsingle : Json.single? (Json.ofSingle value) = none := by
    rw [Option.eq_none_iff_forall_ne_some]
    intro again hagain
    exact hinfinite (Binary.Single.exists_single?_iff.1 ⟨again, hagain⟩)
  have hblob : describeBlob tensor ∈ (describeLayer layer).blobs.values := by
    obtain ⟨entry, hentry, rfl⟩ := List.mem_map.1 htensor
    exact List.mem_map.2 ⟨_, List.mem_map_of_mem hentry, rfl⟩
  have hnone : Json.layer? (Json.ofLayer (describeLayer layer)) = none :=
    Json.layer?_eq_none hblob rfl hvalue hsingle
  have hdescribed : describeLayer layer ∈ network.describe.layers := List.mem_map_of_mem hlayer
  have hdescription : Json.network? (Json.ofNetwork network.describe) = none := by
    rw [Json.network?_eq (List.forall_mem_map.2 hports),
      Json.list?_map_eq_none hdescribed hnone, Option.map_none]
  rw [parse, read?_toJsonText, hdescription]

/-- A network that was read from a text is read again from its own text exactly if its constant data
is finite. -/
theorem parse_toJsonText_iff_finite {text : String} (h : parse text = .ok network) :
    ((∃ again, parse network.toJsonText = .ok again) ↔ ∀ value ∈ network.constants, value.Finite) ∧
    ((∃ value ∈ network.constants, ¬ value.Finite) →
      parse network.toJsonText = .error .malformed) := by
  have hports := ports_lt_of_parse h
  refine ⟨⟨?_, exists_parse_of_finite (Built.parse h) hports⟩, parse_of_infinite hports⟩
  rintro ⟨again, hagain⟩
  by_contra hfinite
  push Not at hfinite
  rw [parse_of_infinite hports hfinite] at hagain
  cases hagain

/-- A text with a single number in its constant data. -/
def constantText (number : String) : String :=
  "\x7b\"layers\":[\x7b\"name\":\"c\",\"type\":\"Const\",\"outputs\":[\x7b\"name\":\"c\",\"shape\":[9]\x7d]," ++
  "\"blobs\":\x7b\"custom\":\x7b\"dims\":[1],\"data\":[" ++ number ++ "]\x7d\x7d\x7d]\x7d"

/-- The network of such a text. -/
def constantOf (value : Binary.Single) : Network where
  name := ""
  layers := [⟨0, "c", "Const", [], [⟨"c", [9]⟩], .empty,
    Dictionary.empty.insert "custom" ⟨[1], [value], rfl, by decide⟩, false⟩]
  connections := []
  names := Table.empty.insert "c" 0
  producers := .empty
  consumers := .empty

theorem parse_constantText_half : parse (constantText "0.5") = .ok (constantOf ⟨0x3f000000⟩) := by
  decide +kernel

/-- The text that is written for one half is read again. -/
theorem constantOf_half_parse : ∃ again, parse (constantOf ⟨0x3f000000⟩).toJsonText = .ok again := by
  have hfinite : ∀ value ∈ (constantOf ⟨0x3f000000⟩).constants, value.Finite := by
    simp only [Binary.Single.Finite]
    decide
  exact (parse_toJsonText_iff_finite parse_constantText_half).1.2 hfinite

theorem parse_constantText_overflow :
    parse (constantText "1e39") = .ok (constantOf ⟨0x7f800000⟩) := by
  decide +kernel

/-- A number beyond single precision is read as an infinity. The text of that network is refused. -/
theorem constantText_not_reread : ∃ network, parse (constantText "1e39") = .ok network ∧
    ∀ again, parse network.toJsonText ≠ .ok again := by
  have hinfinite : ∃ value ∈ (constantOf ⟨0x7f800000⟩).constants, ¬ value.Finite := by
    simp only [Binary.Single.Finite]
    decide
  refine ⟨_, parse_constantText_overflow, fun again hagain => ?_⟩
  rw [parse_of_infinite (ports_lt_of_parse parse_constantText_overflow) hinfinite] at hagain
  cases hagain

end Network

end ShapeFlow
