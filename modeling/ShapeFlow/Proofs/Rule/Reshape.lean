import ShapeFlow.Proofs.Rule.Parameter
import ShapeFlow.Proofs.Shape
import ShapeFlow.Rule.Arrangement

/-!
Reshaping keeps the number of elements, and is refused only where no shape answers the request: an entry
makes no sense, a product does not fit into a word, or the known dimensions do not account for the
elements of the input. The faults are looked for in this order.
-/

namespace ShapeFlow.Rule

/-- An entry, given with its axis, asks for a size, for the dimension that the input has on the same axis,
or for inference. -/
def Requestable (rank : Nat) (place : Int × Nat) : Prop :=
  0 < place.1 ∨ place.1 = 0 ∧ place.2 < rank ∨ place.1 = -1

instance (rank : Nat) (place : Int × Nat) : Decidable (Requestable rank place) :=
  inferInstanceAs (Decidable (_ ∨ _ ∧ _ ∨ _))

/-- Every entry makes sense, and at most one of them is left to be inferred. -/
def Resolvable (input : Shape) (requests : List Int) : Prop :=
  (∀ place ∈ requests.zipIdx, Requestable input.length place) ∧ requests.count (-1) ≤ 1

instance (input : Shape) (requests : List Int) : Decidable (Resolvable input requests) :=
  inferInstanceAs (Decidable (_ ∧ _))

/-- What an entry counts before anything is inferred. -/
def knownDim (input : Shape) (place : Int × Nat) : Dim :=
  if place.1 = -1 then 1
  else if place.1 = 0 then input[place.2]?.getD 0
  else UInt64.ofNat place.1.toNat

def knownDims (input : Shape) (requests : List Int) : Shape :=
  requests.zipIdx.map (knownDim input)

/-- The known dimensions account for all elements of the input, or for a part of them that divides the
whole if a dimension is to be inferred. -/
def Balanced (input : Shape) (requests : List Int) : Prop :=
  -1 ∈ requests ∧ (knownDims input requests).volume ≠ 0 ∧
      (knownDims input requests).volume ∣ input.volume ∨
    -1 ∉ requests ∧ (knownDims input requests).volume = input.volume

instance (input : Shape) (requests : List Int) : Decidable (Balanced input requests) :=
  inferInstanceAs (Decidable (_ ∧ _ ∧ _ ∨ _ ∧ _))

/-- The faults of a request in the order in which they are found. -/
def reshapeFaults (params : Params) (input : Shape) (requests : List Int) : List RuleError :=
  (if ¬ Resolvable input requests then [invalid params "dim"] else []) ++
    ((if ¬ input.Countable then [.overflow "Reshape" input] else []) ++
      ((if ¬ (knownDims input requests).Countable then [.overflow "Reshape" (knownDims input requests)]
        else []) ++
        (if ¬ Balanced input requests then
          [.incompatibleShapes "Reshape" input (knownDims input requests)] else [])))

/-- An output that answers the request: it copies what is to be copied, has the sizes that are asked for,
and as many elements as the input. -/
structure Answers (input : Shape) (requests : List Int) (output : Shape) : Prop where
  length_eq : output.length = requests.length
  copied : ∀ axis : Nat, requests[axis]? = some 0 → output[axis]? = input[axis]?
  given : ∀ (axis : Nat) (size : Int), requests[axis]? = some size → 0 < size →
    ∃ dim, output[axis]? = some dim ∧ (dim.toNat : Int) = size
  volume_eq : output.volume = input.volume

/-! ### The entries -/

section

variable {input : Shape} {axis : Nat} {inferred : Option Nat} {request : Int} {requests : List Int}

/-- The dimension of an entry that is not to be inferred. -/
def ownDim? (input : Shape) (axis : Nat) (request : Int) : Option Dim :=
  if request = 0 then input[axis]? else if 0 < request then Dim.ofNat? request.toNat else none

theorem ownDim?_eq_some_iff (hown : request ≠ -1) (hword : request < UInt64.size) {dim : Dim} :
    ownDim? input axis request = some dim ↔
      Requestable input.length (request, axis) ∧ dim = knownDim input (request, axis) := by
  unfold ownDim? Requestable knownDim
  dsimp only
  rw [if_neg hown]
  by_cases hcopy : request = 0
  · rw [if_pos hcopy, if_pos hcopy, hcopy]
    by_cases haxis : axis < input.length
    · simp [haxis, eq_comm]
    · simp [haxis]
  · rw [if_neg hcopy, if_neg hcopy]
    by_cases hsize : 0 < request
    · rw [if_pos hsize, Dim.ofNat?_eq_some_iff, ← UInt64.toNat_inj,
        UInt64.toNat_ofNat_of_lt' (by omega)]
      exact (and_iff_right (.inl hsize)).symm
    · rw [if_neg hsize]
      simp [hsize, hcopy, hown]

theorem resolveDims_cons (hown : request ≠ -1) :
    resolveDims input axis inferred (request :: requests) = (ownDim? input axis request).bind fun dim =>
      (resolveDims input (axis + 1) inferred requests).map fun result => (dim :: result.1, result.2) := by
  rw [resolveDims, if_neg hown, ownDim?]
  cases resolveDims input (axis + 1) inferred requests <;> split_ifs <;> rfl

/-- With an axis already to be inferred there may be no second one. -/
theorem resolveDims_eq_some_iff (hwords : ∀ request ∈ requests, request < UInt64.size)
    {result : List Dim × Option Nat} : resolveDims input axis inferred requests = some result ↔
      ((∀ place ∈ requests.zipIdx axis, Requestable input.length place) ∧
        inferred.toList.length + requests.count (-1) ≤ 1) ∧
      result = ((requests.zipIdx axis).map (knownDim input),
        inferred.or (((requests.zipIdx axis).find? fun place => place.1 = -1).map Prod.snd)) := by
  induction requests generalizing axis inferred result with
  | nil => cases inferred <;> simp [resolveDims, eq_comm]
  | cons request rest ih =>
    obtain ⟨hword, hrest⟩ := List.forall_mem_cons.1 hwords
    rw [List.zipIdx_cons, List.forall_mem_cons, List.map_cons]
    by_cases hinfer : request = -1
    · subst hinfer
      have hallowed : Requestable input.length (-1, axis) := .inr (.inr rfl)
      have hone : knownDim input (-1, axis) = 1 := rfl
      rw [resolveDims, if_pos rfl, List.count_cons_self, List.find?_cons_of_pos rfl, hone]
      cases inferred with
      | some other => simp
      | none =>
        simp only [Option.isSome_none, Bool.false_eq_true, if_false, Option.map_eq_some_iff, ih hrest]
        constructor
        · rintro ⟨_, ⟨⟨hplaces, hcount⟩, rfl⟩, rfl⟩
          exact ⟨⟨⟨hallowed, hplaces⟩, by simpa [Nat.add_comm] using hcount⟩, rfl⟩
        · rintro ⟨⟨⟨-, hplaces⟩, hcount⟩, rfl⟩
          exact ⟨_, ⟨⟨hplaces, by simpa [Nat.add_comm] using hcount⟩, rfl⟩, rfl⟩
    · rw [List.find?_cons_of_neg (by simpa using hinfer)]
      simp only [resolveDims_cons hinfer, List.count_cons_of_ne hinfer, Option.bind_eq_some_iff,
        Option.map_eq_some_iff, ownDim?_eq_some_iff hinfer hword, ih hrest]
      constructor
      · rintro ⟨_, ⟨hallowed, rfl⟩, _, ⟨⟨hplaces, hcount⟩, rfl⟩, rfl⟩
        exact ⟨⟨⟨hallowed, hplaces⟩, hcount⟩, rfl⟩
      · rintro ⟨⟨⟨hallowed, hplaces⟩, hcount⟩, rfl⟩
        exact ⟨_, ⟨hallowed, rfl⟩, _, ⟨⟨hplaces, hcount⟩, rfl⟩, rfl⟩

theorem resolveDims_eq_some (hwords : ∀ request ∈ requests, request < UInt64.size)
    (h : Resolvable input requests) : resolveDims input 0 none requests = some (knownDims input requests,
      (requests.zipIdx.find? fun place => place.1 = -1).map Prod.snd) := by
  rw [resolveDims_eq_some_iff hwords, Option.none_or]
  exact ⟨⟨h.1, by simpa using h.2⟩, rfl⟩

theorem resolveDims_eq_none (hwords : ∀ request ∈ requests, request < UInt64.size)
    (h : ¬ Resolvable input requests) : resolveDims input 0 none requests = none := by
  rw [Option.eq_none_iff_forall_ne_some]
  intro result hresult
  obtain ⟨⟨hplaces, hcount⟩, -⟩ := (resolveDims_eq_some_iff hwords).1 hresult
  exact h ⟨hplaces, by simpa using hcount⟩

theorem length_knownDims : (knownDims input requests).length = requests.length := by
  rw [knownDims, List.length_map, List.length_zipIdx]

theorem getElem?_knownDims (h : requests[axis]? = some request) :
    (knownDims input requests)[axis]? = some (knownDim input (request, axis)) := by
  simp [knownDims, h]

end

/-! ### The count of the elements -/

section

variable {input : Shape} {requests : List Int}

theorem decided_elementCount (op : String) (shape : Shape) :
    Decided (fun count => count.toNat = shape.volume)
      (if ¬ shape.Countable then [.overflow op shape] else []) (elementCount op shape) := by
  unfold elementCount
  cases hcount : shape.elementCount? with
  | some count =>
    obtain ⟨hcountable, hvolume⟩ := Shape.elementCount?_eq_some_iff.1 hcount
    rw [if_neg (not_not.2 hcountable)]
    exact .accepted hvolume
  | none =>
    have huncountable : ¬ shape.Countable := by
      intro hcountable
      have hfits := hcountable shape ((List.mem_inits _ _).2 List.prefix_rfl)
      obtain ⟨count, hvolume⟩ := Dim.exists_toNat_eq hfits
      rw [Shape.elementCount?_eq_some_iff.2 ⟨hcountable, hvolume⟩] at hcount
      cases hcount
    rw [if_pos huncountable]
    exact .refused _ []

/-- An output that differs from the known dimensions at most where a dimension is inferred. -/
theorem answers_of_known (hwords : ∀ request ∈ requests, request < UInt64.size)
    (hplaces : ∀ place ∈ requests.zipIdx, Requestable input.length place) {output : Shape}
    (hlength : output.length = requests.length)
    (hsame : ∀ axis : Nat, requests[axis]? ≠ some (-1) → output[axis]? = (knownDims input requests)[axis]?)
    (hvolume : output.volume = input.volume) : Answers input requests output := by
  refine ⟨hlength, fun axis hcopy => ?_, fun axis size hgiven hpos => ?_, hvolume⟩
  · obtain hpos | ⟨-, haxis⟩ | hinfer := hplaces (0, axis) (List.mem_zipIdx_iff_getElem?.2 hcopy)
    · exact absurd hpos (Int.lt_irrefl 0)
    · have hown : input[axis]? = some input[axis] := List.getElem?_eq_getElem haxis
      rw [hsame axis (by simp [hcopy]), getElem?_knownDims hcopy, hown]
      simp [knownDim, hown]
    · exact absurd hinfer (by simp)
  · have hinfer : size ≠ -1 := by omega
    have hword := hwords size (List.mem_of_getElem? hgiven)
    refine ⟨UInt64.ofNat size.toNat, ?_, ?_⟩
    · rw [hsame axis (by simp [hgiven, hinfer]), getElem?_knownDims hgiven, knownDim]
      dsimp only
      rw [if_neg hinfer, if_neg (by omega)]
    · rw [UInt64.toNat_ofNat_of_lt' (by omega)]
      omega

/-- The remaining elements go to the axis that is to be inferred. -/
theorem volume_inferred {known : Shape} {axis : Nat} (hknown : known[axis]? = some 1) {total count : Dim}
    (htotal : total.toNat = input.volume) (hcount : count.toNat = known.volume)
    (hdivides : known.volume ∣ input.volume) :
    Shape.volume (known.set axis (total / count)) = input.volume := by
  rw [Shape.volume_set hknown, UInt64.toNat_div, htotal, hcount, Nat.mul_div_cancel' hdivides]

theorem decided_balance (hwords : ∀ request ∈ requests, request < UInt64.size)
    (hplaces : ∀ place ∈ requests.zipIdx, Requestable input.length place) {total count : Dim}
    (htotal : total.toNat = input.volume) (hcount : count.toNat = (knownDims input requests).volume)
    (mismatch : RuleError) :
    Decided (fun shapes => ∃ output, shapes = [output] ∧ Answers input requests output)
      (if ¬ Balanced input requests then [mismatch] else [])
      (match (requests.zipIdx.find? fun place => place.1 = -1).map Prod.snd with
        | some axis =>
          if count = 0 ∨ total % count ≠ 0 then .error mismatch
          else .ok [(knownDims input requests).set axis (total / count)]
        | none => if count ≠ total then .error mismatch else .ok [knownDims input requests]) := by
  cases hfound : requests.zipIdx.find? fun place => place.1 = -1 with
  | none =>
    have habsent : -1 ∉ requests := by
      intro hmem
      obtain ⟨axis, haxis⟩ := List.mem_iff_getElem?.1 hmem
      have hplace : (-1, axis) ∈ requests.zipIdx := List.mem_zipIdx_iff_getElem?.2 haxis
      exact List.find?_eq_none.1 hfound _ hplace rfl
    have hbalanced : Balanced input requests ↔ count = total := by
      rw [Balanced, ← UInt64.toNat_inj, htotal, hcount]
      simp [habsent]
    rw [Option.map_none]
    dsimp only
    by_cases hequal : count = total
    · rw [if_neg (not_not.2 (hbalanced.2 hequal)), if_neg (not_not.2 hequal)]
      refine .accepted ⟨_, rfl, answers_of_known hwords hplaces length_knownDims (fun _ _ => rfl) ?_⟩
      rw [← hcount, hequal, htotal]
    · rw [if_pos (mt hbalanced.1 hequal), if_pos hequal]
      exact .refused _ []
  | some place =>
    obtain ⟨request, axis⟩ := place
    have hinfer : request = -1 := by simpa using List.find?_some hfound
    subst hinfer
    have haxis : requests[axis]? = some (-1) :=
      List.mem_zipIdx_iff_getElem?.1 (List.mem_of_find?_eq_some hfound)
    have hbalanced : Balanced input requests ↔ ¬ (count = 0 ∨ total % count ≠ 0) := by
      have hzero : count = 0 ↔ (knownDims input requests).volume = 0 := by
        rw [← UInt64.toNat_inj, hcount, UInt64.toNat_zero]
      have hrest : total % count = 0 ↔ (knownDims input requests).volume ∣ input.volume := by
        rw [← UInt64.toNat_inj, UInt64.toNat_mod, htotal, hcount, UInt64.toNat_zero,
          Nat.dvd_iff_mod_eq_zero]
      rw [Balanced, hzero, not_or, not_not, hrest]
      simp [List.mem_of_getElem? haxis]
    rw [Option.map_some]
    dsimp only
    by_cases hrefused : count = 0 ∨ total % count ≠ 0
    · rw [if_pos (mt hbalanced.1 (not_not.2 hrefused)), if_pos hrefused]
      exact .refused _ []
    · rw [if_neg (not_not.2 (hbalanced.2 hrefused)), if_neg hrefused]
      have hknown : (knownDims input requests)[axis]? = some 1 := getElem?_knownDims haxis
      obtain ⟨-, -, hdivides⟩ | ⟨habsent, -⟩ := hbalanced.2 hrefused
      · refine .accepted ⟨_, rfl, answers_of_known hwords hplaces ?_ (fun other hother => ?_)
          (volume_inferred hknown htotal hcount hdivides)⟩
        · rw [List.length_set, length_knownDims]
        · refine List.getElem?_set_ne fun heq => hother ?_
          rw [← heq, haxis]
      · exact absurd (List.mem_of_getElem? haxis) habsent

end

/-- Reshaping accepts the requests that can be answered and answers them with as many elements as the
input has; any other request is refused for the first of its faults. -/
theorem reshape_exact {params : Params} {requests : List Int}
    (hrequests : list? Text.integer? params "dim" = .ok (some requests)) (input : Shape)
    (rest : List Shape) (blobs : Blobs) :
    ((∃ shapes, reshape (input :: rest) params blobs = .ok shapes) ↔
      Resolvable input requests ∧ input.Countable ∧ (knownDims input requests).Countable ∧
        Balanced input requests) ∧
    Decided (fun shapes => ∃ output, shapes = [output] ∧ Answers input requests output)
      (reshapeFaults params input requests) (reshape (input :: rest) params blobs) := by
  have hwords : ∀ request ∈ requests, request < UInt64.size := by
    intro request hrequest
    obtain ⟨text, htext⟩ := exists_item_of_list? hrequests hrequest
    exact lt_trans (Text.integer?_lt htext) (by decide)
  have hdecided : Decided (fun shapes => ∃ output, shapes = [output] ∧ Answers input requests output)
      (reshapeFaults params input requests) (reshape (input :: rest) params blobs) := by
    simp only [reshape, firstInput, ok_bind, hrequests, required]
    by_cases hresolvable : Resolvable input requests
    · rw [resolveDims_eq_some hwords hresolvable, reshapeFaults, if_neg (not_not.2 hresolvable),
        List.nil_append]
      apply (decided_elementCount "Reshape" input).bind
      intro total htotal
      apply (decided_elementCount "Reshape" (knownDims input requests)).bind
      intro count hcount
      exact decided_balance hwords hresolvable.1 htotal hcount _
    · rw [resolveDims_eq_none hwords hresolvable, reshapeFaults, if_pos hresolvable]
      exact .refused _ _
  refine ⟨hdecided.exists_ok_iff.trans ?_, hdecided⟩
  simp [reshapeFaults]

/-- As many elements as a word can count are divided into rows of five. -/
theorem reshape_widest :
    list? Text.integer? (Dictionary.empty.insert "dim" "5, -1") "dim" = .ok (some [5, -1]) ∧
    ∃ output, reshape [[3, 6148914691236517205]] (Dictionary.empty.insert "dim" "5, -1") .empty =
      .ok [output] ∧ Answers [3, 6148914691236517205] [5, -1] output := by
  have hrequests : list? Text.integer? (Dictionary.empty.insert "dim" "5, -1") "dim" =
      .ok (some [5, -1]) := by decide +kernel
  have hdecided := (reshape_exact hrequests [3, 6148914691236517205] [] .empty).2
  have hfaults : reshapeFaults (Dictionary.empty.insert "dim" "5, -1") [3, 6148914691236517205] [5, -1] =
      [] := by decide +kernel
  rw [hfaults] at hdecided
  obtain ⟨shapes, hshapes, output, rfl, hanswers⟩ := hdecided.exists_ok
  exact ⟨hrequests, output, hshapes, hanswers⟩

end ShapeFlow.Rule
