import ShapeFlow.Description.Json
import ShapeFlow.Proofs.Json.RoundTrip
import ShapeFlow.Proofs.Outcome

/-!
Descriptions are taken from the JSON values they are written as: lists item by item, dictionaries in
the order of their keys, and records field by field, with the default wherever a field was left out.
-/

namespace ShapeFlow

/-! ### Dictionaries -/

namespace Dictionary

variable {ν : Type}

theorem placeInOrder_eq_append {key : String} {entries : List (String × ν)}
    (h : ∀ entry ∈ entries, entry.1 < key) (value : ν) :
    placeInOrder key value entries = entries ++ [(key, value)] := by
  induction entries with
  | nil => rfl
  | cons entry rest ih =>
    obtain ⟨hentry, hrest⟩ := List.forall_mem_cons.1 h
    have hne : key ≠ entry.1 := by
      rintro rfl
      exact String.lt_irrefl _ hentry
    rw [placeInOrder, if_neg (String.lt_asymm hentry), if_neg hne, ih hrest]
    rfl

/-- A dictionary is that of its entries. -/
theorem ofList_entries (dictionary : Dictionary ν) : ofList dictionary.entries = dictionary := by
  have hentries : (ofList dictionary.entries).entries = dictionary.entries := by
    refine foldl_invariant (fun done (made : Dictionary ν) => made.entries = done) rfl ?_
    intro done entry rest made hsplit hmade
    have hsorted := dictionary.sorted
    rw [hsplit, List.pairwise_append] at hsorted
    have hlast : ∀ other ∈ made.entries, other.1 < entry.1 := fun other hother =>
      hsorted.2.2 other (hmade ▸ hother) entry List.mem_cons_self
    exact (placeInOrder_eq_append hlast entry.2).trans (by rw [hmade])
  cases dictionary
  cases hmade : ofList _
  simp_all

theorem isEmpty_iff {dictionary : Dictionary ν} : dictionary.isEmpty = true ↔ dictionary = empty := by
  cases dictionary
  simp [isEmpty, empty]

theorem map_id (dictionary : Dictionary ν) : dictionary.map id = dictionary := by
  cases dictionary
  simp [map]

end Dictionary

/-! ### Descriptions with other values -/

def BlobDescription.mapValues (change : Binary.Single → Binary.Single) (blob : BlobDescription) :
    BlobDescription :=
  { blob with data := blob.data.map (List.map change) }

def LayerDescription.mapValues (change : Binary.Single → Binary.Single) (layer : LayerDescription) :
    LayerDescription :=
  { layer with blobs := layer.blobs.map (BlobDescription.mapValues change) }

def NetworkDescription.mapValues (change : Binary.Single → Binary.Single)
    (network : NetworkDescription) : NetworkDescription :=
  { network with layers := network.layers.map (LayerDescription.mapValues change) }

theorem BlobDescription.mapValues_id : mapValues id = id := by
  funext blob
  simp [mapValues]

theorem LayerDescription.mapValues_id : mapValues id = id := by
  funext layer
  rw [mapValues, BlobDescription.mapValues_id, Dictionary.map_id]
  rfl

theorem NetworkDescription.mapValues_id (network : NetworkDescription) :
    network.mapValues id = network := by
  rw [mapValues, LayerDescription.mapValues_id, List.map_id]

namespace Json

/-! ### Lists, dictionaries and records -/

section

variable {α : Type} {value? : Json → Option α} {ofValue : α → Json}

theorem mapM_map_of_forall {β γ : Type} {write : α → β} {read? : β → Option γ} {change : α → γ}
    {items : List α} (h : ∀ item ∈ items, read? (write item) = some (change item)) :
    (items.map write).mapM read? = some (items.map change) := by
  induction items with
  | nil => rfl
  | cons item rest ih =>
    obtain ⟨hitem, hrest⟩ := List.forall_mem_cons.1 h
    rw [List.map_cons, List.mapM_cons, hitem, ih hrest]
    rfl

theorem mapM_eq_none_of_mem {β : Type} {read? : α → Option β} {items : List α} {item : α}
    (hitem : item ∈ items) (h : read? item = none) : items.mapM read? = none := by
  induction items with
  | nil => cases hitem
  | cons first rest ih =>
    rw [List.mapM_cons]
    rcases List.mem_cons.1 hitem with rfl | hrest
    · rw [h]
      rfl
    · rw [ih hrest]
      cases read? first <;> rfl

theorem list?_map {items : List α} (h : ∀ item ∈ items, value? (ofValue item) = some item) :
    list? value? (.array (items.map ofValue)) = some items :=
  (mapM_map_of_forall h).trans (congrArg some items.map_id')

theorem list?_map_eq_none {items : List α} {item : α} (hitem : item ∈ items)
    (h : value? (ofValue item) = none) : list? value? (.array (items.map ofValue)) = none :=
  mapM_eq_none_of_mem (List.mem_map_of_mem hitem) h

theorem dictionary?_ofDictionary {dictionary : Dictionary α} {change : α → α}
    (h : ∀ entry ∈ dictionary.entries, value? (ofValue entry.2) = some (change entry.2)) :
    dictionary? value? (ofDictionary ofValue dictionary) = some (dictionary.map change) := by
  have hentries : (dictionary.entries.map fun entry =>
      (some entry.1, ofValue entry.2)).mapM (member? value?) = some (dictionary.map change).entries :=
    mapM_map_of_forall fun entry hentry => by simp [member?, h entry hentry]
  simp only [ofDictionary, ofFields, List.map_map, dictionary?]
  exact (congrArg (Option.map Dictionary.ofList) hentries).trans
    (congrArg some (dictionary.map change).ofList_entries)

theorem dictionary?_eq_none {dictionary : Dictionary α} {entry : String × α}
    (hentry : entry ∈ dictionary.entries) (h : value? (ofValue entry.2) = none) :
    dictionary? value? (ofDictionary ofValue dictionary) = none := by
  have hentries : (dictionary.entries.map fun entry =>
      (some entry.1, ofValue entry.2)).mapM (member? value?) = none :=
    mapM_eq_none_of_mem (List.mem_map_of_mem hentry) (by simp [member?, h])
  simp only [ofDictionary, ofFields, List.map_map, dictionary?]
  exact congrArg (Option.map Dictionary.ofList) hentries

/-- A record with known fields in their order is taken as it is. -/
theorem fields?_ofFields {names : List String} {fields : List (String × Json)}
    (hnames : (fields.map Prod.fst).Sublist names) (hnodup : names.Nodup) :
    fields? names (ofFields fields) = some fields := by
  have hmembers : (fields.map fun field => (some field.1, field.2)).mapM (member? some) =
      some (fields.map id) :=
    mapM_map_of_forall fun _ _ => rfl
  rw [List.map_id] at hmembers
  have hknown : fields.filter (fun field => names.contains field.1) = fields :=
    List.filter_eq_self.2 fun field hfield =>
      List.contains_iff_mem.2 (hnames.subset (List.mem_map_of_mem hfield))
  simp only [ofFields, fields?, hmembers, Option.bind_eq_bind, Option.bind_some, hknown]
  rw [if_pos (hnames.nodup hnodup)]

@[simp] theorem lookup_fieldUnless_self (absent : Bool) (name : String) (json : Json) :
    (fieldUnless absent name json).lookup name = if absent then none else some json := by
  cases absent <;> simp [fieldUnless]

@[simp] theorem lookup_fieldUnless_of_ne {key name : String} (h : key ≠ name) (absent : Bool)
    (json : Json) : (fieldUnless absent name json).lookup key = none := by
  have hother : (key == name) = false := beq_eq_false_iff_ne.2 h
  cases absent <;> simp [fieldUnless, List.lookup_cons, hother]

theorem sublist_fieldUnless (absent : Bool) (name : String) (json : Json) :
    ((fieldUnless absent name json).map Prod.fst).Sublist [name] := by
  cases absent with
  | true => exact List.nil_sublist _
  | false => exact .refl _

/-- A field that was read holds its default or comes from a value. -/
theorem optional_eq_some {fields : List (String × Json)} {name : String} {default value : α}
    (h : optional fields name default value? = some value) :
    value = default ∨ ∃ json, value? json = some value := by
  unfold optional at h
  split at h
  · cases h
    exact .inl rfl
  · exact .inr ⟨_, h⟩

/-- A field that was left out has its default. -/
theorem optional_of_lookup {fields : List (String × Json)} {name : String} {absent : Bool}
    {json : Json} {default value : α}
    (hlookup : fields.lookup name = if absent then none else some json)
    (habsent : absent = true → value = default)
    (hpresent : absent = false → value? json = some value) :
    optional fields name default value? = some value := by
  cases absent with
  | true => simp [optional, hlookup, habsent rfl]
  | false => simp [optional, hlookup, hpresent rfl]

end

/-! ### Descriptions -/

theorem dim?_ofNat {value : Nat} (h : value < UInt64.size) :
    (ofNat value).dim? = some (UInt64.ofNat value) :=
  NumberToken.dim?_ofNat h

theorem shape?_ofShape (shape : Shape) : shape? (ofShape shape) = some shape :=
  list?_map fun dim _ => by rw [dim?_ofNat dim.toNat_lt_size, UInt64.ofNat_toNat]

theorem port?_ofPort (port : Port) : port? (ofPort port) = some port := by
  have hfields : fields? ["name", "shape"] (ofPort port) =
      some [("name", ofText port.name), ("shape", ofShape port.shape)] :=
    fields?_ofFields (.refl _) (by decide)
  simp [port?, hfields, required, List.lookup_cons, text?, ofText, shape?_ofShape]

/-- The values of the blob are read from their tokens as `change` says. -/
def ReadAs (change : Binary.Single → Binary.Single) (blob : BlobDescription) : Prop :=
  ∀ values, blob.data = some values → ∀ value ∈ values, single? (ofSingle value) = some (change value)

/-- The values of the blob are read back from their tokens. -/
def Readable (blob : BlobDescription) : Prop :=
  ∀ values, blob.data = some values → ∀ value ∈ values, single? (ofSingle value) = some value

theorem blob?_eq (blob : BlobDescription) : blob? (ofBlob blob) =
    match blob.data with
    | none => some blob
    | some values => (list? single? (.array (values.map ofSingle))).map fun values =>
        ⟨blob.dims, some values⟩ := by
  obtain ⟨dims, data⟩ := blob
  cases data with
  | none =>
    have hfields : fields? ["dims", "data"] (ofBlob ⟨dims, none⟩) = some [("dims", ofShape dims)] :=
      fields?_ofFields (List.sublist_append_left ["dims"] ["data"]) (by decide)
    simp [blob?, hfields, required, optional, List.lookup_cons, shape?_ofShape]
  | some values =>
    have hfields : fields? ["dims", "data"] (ofBlob ⟨dims, some values⟩) =
        some [("dims", ofShape dims), ("data", .array (values.map ofSingle))] :=
      fields?_ofFields (.refl _) (by decide)
    cases hvalues : list? single? (.array (values.map ofSingle)) <;>
      simp [blob?, hfields, required, optional, List.lookup_cons, shape?_ofShape, nullable?, hvalues]

theorem blob?_ofBlob {change : Binary.Single → Binary.Single} {blob : BlobDescription}
    (h : ReadAs change blob) : blob? (ofBlob blob) = some (blob.mapValues change) := by
  rw [blob?_eq]
  obtain ⟨dims, _ | values⟩ := blob
  · rfl
  · have hvalues : list? single? (.array (values.map ofSingle)) = some (values.map change) :=
      mapM_map_of_forall (h values rfl)
    simp only [hvalues]
    rfl

def layerFields (layer : LayerDescription) : List (String × Json) :=
  [("name", ofText layer.name), ("type", ofText layer.typeName)] ++
    fieldUnless layer.inputs.isEmpty "inputs" (.array (layer.inputs.map ofPort)) ++
    fieldUnless layer.outputs.isEmpty "outputs" (.array (layer.outputs.map ofPort)) ++
    fieldUnless layer.params.isEmpty "params" (ofDictionary ofText layer.params) ++
    fieldUnless layer.blobs.isEmpty "blobs" (ofDictionary ofBlob layer.blobs) ++
    fieldUnless (!layer.isNetworkInput) "network_input" (.bool true)

theorem fields?_ofLayer (layer : LayerDescription) :
    fields? ["name", "type", "inputs", "outputs", "params", "blobs", "network_input"] (ofLayer layer) =
      some (layerFields layer) := by
  refine fields?_ofFields ?_ (by decide)
  simp only [List.map_append]
  exact (((((List.Sublist.refl ["name", "type"]).append (sublist_fieldUnless _ _ _)).append
    (sublist_fieldUnless _ _ _)).append (sublist_fieldUnless _ _ _)).append
      (sublist_fieldUnless _ _ _)).append (sublist_fieldUnless _ _ _)

/-- All but the blobs of a layer is always read back. -/
theorem layer?_eq (layer : LayerDescription) : layer? (ofLayer layer) =
    (optional (layerFields layer) "blobs" .empty (dictionary? blob?)).map fun blobs =>
      { layer with blobs := blobs } := by
  have hports : ∀ ports : List Port, list? port? (.array (ports.map ofPort)) = some ports :=
    fun ports => list?_map fun port _ => port?_ofPort port
  have htexts : dictionary? text? (ofDictionary ofText layer.params) = some (layer.params.map id) :=
    dictionary?_ofDictionary fun _ _ => rfl
  rw [Dictionary.map_id] at htexts
  have hname : required (layerFields layer) "name" text? = some layer.name := by
    simp [required, layerFields, text?, ofText]
  have htype : required (layerFields layer) "type" text? = some layer.typeName := by
    simp [required, layerFields, List.lookup_cons, text?, ofText]
  have hinputs : optional (layerFields layer) "inputs" [] (list? port?) = some layer.inputs :=
    optional_of_lookup (by simp [layerFields, List.lookup_append, List.lookup_cons])
      List.isEmpty_iff.1 fun _ => hports layer.inputs
  have houtputs : optional (layerFields layer) "outputs" [] (list? port?) = some layer.outputs :=
    optional_of_lookup (by simp [layerFields, List.lookup_append, List.lookup_cons])
      List.isEmpty_iff.1 fun _ => hports layer.outputs
  have hparams : optional (layerFields layer) "params" .empty (dictionary? text?) = some layer.params :=
    optional_of_lookup (by simp [layerFields, List.lookup_append, List.lookup_cons])
      Dictionary.isEmpty_iff.1 fun _ => htexts
  have hwritten : (layerFields layer).lookup "network_input" =
      if !layer.isNetworkInput then none else some (.bool true) := by
    simp [layerFields, List.lookup_append, List.lookup_cons]
  have hflag : optional (layerFields layer) "network_input" false bool? = some layer.isNetworkInput :=
    optional_of_lookup hwritten (by simp) fun hpresent => by simpa [bool?] using hpresent.symm
  simp only [layer?, fields?_ofLayer, hname, htype, hinputs, houtputs, hparams, hflag,
    Option.bind_eq_bind, Option.bind_some]
  cases optional (layerFields layer) "blobs" .empty (dictionary? blob?) <;> rfl

theorem lookup_blobs (layer : LayerDescription) : (layerFields layer).lookup "blobs" =
    if layer.blobs.isEmpty then none else some (ofDictionary ofBlob layer.blobs) := by
  simp [layerFields, List.lookup_append, List.lookup_cons]

theorem layer?_ofLayer {change : Binary.Single → Binary.Single} {layer : LayerDescription}
    (h : ∀ blob ∈ layer.blobs.values, ReadAs change blob) :
    layer? (ofLayer layer) = some (layer.mapValues change) := by
  have htensors : dictionary? blob? (ofDictionary ofBlob layer.blobs) =
      some (layer.blobs.map (BlobDescription.mapValues change)) :=
    dictionary?_ofDictionary fun entry hentry =>
      blob?_ofBlob (h entry.2 (List.mem_map_of_mem hentry))
  have hblobs : optional (layerFields layer) "blobs" .empty (dictionary? blob?) =
      some (layer.blobs.map (BlobDescription.mapValues change)) := by
    apply optional_of_lookup (lookup_blobs layer) _ fun _ => htensors
    intro hempty
    rw [Dictionary.isEmpty_iff.1 hempty]
    rfl
  rw [layer?_eq, hblobs]
  rfl

theorem layer?_eq_none {layer : LayerDescription} {blob : BlobDescription}
    {values : List Binary.Single} {value : Binary.Single} (hblob : blob ∈ layer.blobs.values)
    (hvalues : blob.data = some values) (hvalue : value ∈ values)
    (h : single? (ofSingle value) = none) : layer? (ofLayer layer) = none := by
  obtain ⟨entry, hentry, rfl⟩ := List.mem_map.1 hblob
  have hnone : blob? (ofBlob entry.2) = none := by
    rw [blob?_eq, hvalues]
    simp only [list?_map_eq_none hvalue h, Option.map_none]
  have hpresent : layer.blobs.isEmpty = false := by
    rw [Dictionary.isEmpty, List.isEmpty_eq_false_iff]
    exact List.ne_nil_of_mem hentry
  rw [layer?_eq, optional, lookup_blobs, hpresent]
  simp only [Bool.false_eq_true, if_false, dictionary?_eq_none hentry hnone, Option.map_none]

theorem connection?_ofConnection {connection : ConnectionDescription}
    (hsource : connection.sourcePort < UInt64.size) (htarget : connection.targetPort < UInt64.size) :
    connection? (ofConnection connection) = some connection := by
  have hfields : fields? ["from", "from_port", "to", "to_port"] (ofConnection connection) =
      some [("from", ofText connection.source), ("from_port", ofNat connection.sourcePort),
        ("to", ofText connection.target), ("to_port", ofNat connection.targetPort)] :=
    fields?_ofFields (.refl _) (by decide)
  have hnumber : ∀ {value}, value < UInt64.size → portNumber? (ofNat value) = some value := by
    intro value hvalue
    simp [portNumber?, dim?_ofNat hvalue, UInt64.toNat_ofNat_of_lt' hvalue]
  simp [connection?, hfields, required, optional, List.lookup_cons, text?, ofText, hnumber hsource,
    hnumber htarget]

/-- All but the layers of a network is always read back. -/
theorem network?_eq {network : NetworkDescription}
    (hports : ∀ connection ∈ network.connections,
      connection.sourcePort < UInt64.size ∧ connection.targetPort < UInt64.size) :
    network? (ofNetwork network) = (list? layer? (.array (network.layers.map ofLayer))).map
      fun layers => { network with layers := layers } := by
  have hconnections : list? connection? (.array (network.connections.map ofConnection)) =
      some network.connections :=
    list?_map fun connection hconnection =>
      connection?_ofConnection (hports connection hconnection).1 (hports connection hconnection).2
  have hfields : fields? ["name", "layers", "connections"] (ofNetwork network) =
      some [("name", ofText network.name), ("layers", .array (network.layers.map ofLayer)),
        ("connections", .array (network.connections.map ofConnection))] :=
    fields?_ofFields (.refl _) (by decide)
  cases hlayers : list? layer? (.array (network.layers.map ofLayer)) <;>
    simp [network?, hfields, required, optional, List.lookup_cons, text?, ofText, hlayers,
      hconnections]

theorem network?_ofNetwork_mapValues {change : Binary.Single → Binary.Single}
    {network : NetworkDescription}
    (hblobs : ∀ layer ∈ network.layers, ∀ blob ∈ layer.blobs.values, ReadAs change blob)
    (hports : ∀ connection ∈ network.connections,
      connection.sourcePort < UInt64.size ∧ connection.targetPort < UInt64.size) :
    network? (ofNetwork network) = some (network.mapValues change) := by
  have hlayers : list? layer? (.array (network.layers.map ofLayer)) =
      some (network.layers.map (LayerDescription.mapValues change)) :=
    mapM_map_of_forall fun layer hlayer => layer?_ofLayer (hblobs layer hlayer)
  rw [network?_eq hports, hlayers]
  rfl

theorem network?_ofNetwork {network : NetworkDescription}
    (hblobs : ∀ layer ∈ network.layers, ∀ blob ∈ layer.blobs.values, Readable blob)
    (hports : ∀ connection ∈ network.connections,
      connection.sourcePort < UInt64.size ∧ connection.targetPort < UInt64.size) :
    network? (ofNetwork network) = some network := by
  have hread := @network?_ofNetwork_mapValues id network hblobs hports
  rwa [network.mapValues_id] at hread

/-! ### Numbers in descriptions -/

section

variable {α : Type} {ofValue : α → Json}

theorem valid_ofFields {fields : List (String × Json)} (h : ∀ field ∈ fields, field.2.Valid) :
    (ofFields fields).Valid :=
  .object (List.forall_mem_map.2 h)

theorem valid_map {items : List α} (h : ∀ item ∈ items, (ofValue item).Valid) :
    (Json.array (items.map ofValue)).Valid :=
  .array (List.forall_mem_map.2 h)

theorem valid_ofDictionary {dictionary : Dictionary α}
    (h : ∀ entry ∈ dictionary.entries, (ofValue entry.2).Valid) :
    (ofDictionary ofValue dictionary).Valid :=
  valid_ofFields (List.forall_mem_map.2 h)

theorem valid_fieldUnless {json : Json} (h : json.Valid) (absent : Bool) (name : String) :
    ∀ field ∈ fieldUnless absent name json, field.2.Valid := by
  cases absent <;> simp [fieldUnless, h]

end

theorem valid_ofNat (value : Nat) : (ofNat value).Valid :=
  .number (NumberToken.valid_ofNat value)

theorem valid_ofShape (shape : Shape) : (ofShape shape).Valid :=
  valid_map fun dim _ => valid_ofNat dim.toNat

theorem valid_ofPort (port : Port) : (ofPort port).Valid :=
  valid_ofFields (by simp [ofText, Valid.string, valid_ofShape])

theorem valid_ofSingle (value : Binary.Single) : (ofSingle value).Valid := by
  unfold ofSingle
  split
  · next htoken => exact .number (NumberToken.valid_ofSingle? htoken)
  · exact .null

theorem valid_ofBlob (blob : BlobDescription) : (ofBlob blob).Valid := by
  refine valid_ofFields (List.forall_mem_cons.2 ⟨valid_ofShape blob.dims, ?_⟩)
  cases blob.data with
  | none => simp
  | some values => simp [valid_map fun value _ => valid_ofSingle value]

theorem valid_ofLayer (layer : LayerDescription) : (ofLayer layer).Valid := by
  have hports : ∀ ports : List Port, (Json.array (ports.map ofPort)).Valid :=
    fun ports => valid_map fun port _ => valid_ofPort port
  have hparams : (ofDictionary ofText layer.params).Valid :=
    valid_ofDictionary fun entry _ => .string entry.2
  have hblobs : (ofDictionary ofBlob layer.blobs).Valid :=
    valid_ofDictionary fun entry _ => valid_ofBlob entry.2
  refine valid_ofFields ?_
  simp only [List.forall_mem_append]
  exact ⟨⟨⟨⟨⟨by simp [ofText, Valid.string], valid_fieldUnless (hports layer.inputs) _ _⟩,
    valid_fieldUnless (hports layer.outputs) _ _⟩, valid_fieldUnless hparams _ _⟩,
    valid_fieldUnless hblobs _ _⟩, valid_fieldUnless (.bool true) _ _⟩

theorem valid_ofConnection (connection : ConnectionDescription) : (ofConnection connection).Valid :=
  valid_ofFields (by simp [ofText, Valid.string, valid_ofNat])

theorem valid_ofNetwork (network : NetworkDescription) : (ofNetwork network).Valid := by
  have hlayers : (Json.array (network.layers.map ofLayer)).Valid :=
    valid_map fun layer _ => valid_ofLayer layer
  have hconnections : (Json.array (network.connections.map ofConnection)).Valid :=
    valid_map fun connection _ => valid_ofConnection connection
  exact valid_ofFields (by simp [ofText, Valid.string, hlayers, hconnections])

end Json

end ShapeFlow
