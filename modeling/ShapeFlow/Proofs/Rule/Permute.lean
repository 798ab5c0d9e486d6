import Mathlib.Data.List.Nodup
import Mathlib.Data.List.Perm.Subperm
import Mathlib.Data.List.Range
import ShapeFlow.Proofs.Outcome
import ShapeFlow.Rule.Arrangement

/-!
Permuting accepts exactly the orders that are permutations of the axes, and rearranges the dimensions by
them. Orders compose, and every one has an inverse that leads back. The check with a table of the axes
seen so far looks up no axis outside of the table, whatever the order is.
-/

namespace ShapeFlow.Rule

/-- The items at the given places, in the order of the places. -/
def rearrange {α : Type} (items : List α) (places : List Nat) : List α :=
  places.filterMap (items[·]?)

/-- For each axis the place at which the order has it. -/
def inverseOrder (places : List Nat) : List Nat :=
  (List.range places.length).map fun axis => places.idxOf axis

/-- The parameters give the order as a list of axes. -/
def GivesOrder (params : Params) (places : List Nat) : Prop :=
  ∃ order, list? Text.dim? params "order" = .ok (some order) ∧ order.map UInt64.toNat = places

/-! ### Permutations of places -/

section

variable {α : Type} {items : List α} {places : List Nat} {rank : Nat}

/-- As many distinct places as there are leave none out. -/
theorem perm_range_iff : places.Perm (List.range rank) ↔
    places.length = rank ∧ places.Nodup ∧ ∀ place ∈ places, place < rank := by
  constructor
  · intro h
    exact ⟨by simpa using h.length_eq, h.nodup_iff.2 List.nodup_range,
      fun place hplace => List.mem_range.1 (h.subset hplace)⟩
  · rintro ⟨hlength, hnodup, hbelow⟩
    have hsubset : places ⊆ List.range rank := fun place hplace => List.mem_range.2 (hbelow place hplace)
    exact (hnodup.subperm hsubset).perm_of_length_le (by simp [hlength])

theorem map_some_rearrange (h : ∀ place ∈ places, place < items.length) :
    (rearrange items places).map some = places.map (items[·]?) := by
  induction places with
  | nil => rfl
  | cons place rest ih =>
    obtain ⟨hplace, hrest⟩ := List.forall_mem_cons.1 h
    have hitem : items[place]? = some items[place] := List.getElem?_eq_getElem hplace
    rw [rearrange, List.filterMap_cons_some hitem, List.map_cons, List.map_cons, hitem]
    exact congrArg _ (ih hrest)

theorem getElem?_rearrange (h : ∀ place ∈ places, place < items.length) (axis : Nat) :
    (rearrange items places)[axis]? = places[axis]?.bind (items[·]?) := by
  have hsame := congrArg (·[axis]?) (map_some_rearrange h)
  simp only [List.getElem?_map] at hsame
  cases hitem : (rearrange items places)[axis]? <;> cases hplace : places[axis]? <;> simp_all

theorem mapM_eq_rearrange (h : ∀ place ∈ places, place < items.length) :
    places.mapM (items[·]?) = some (rearrange items places) := by
  rw [mapM_eq_some_iff]
  have hsame : List.Forall₂ Eq (places.map (items[·]?)) ((rearrange items places).map some) := by
    rw [map_some_rearrange h, List.forall₂_eq_eq_eq]
  rwa [List.forall₂_map_left_iff, List.forall₂_map_right_iff] at hsame

theorem rearrange_range (items : List α) : rearrange items (List.range items.length) = items := by
  ext1 axis
  rw [getElem?_rearrange fun place => List.mem_range.1]
  by_cases haxis : axis < items.length
  · rw [List.getElem?_range haxis, Option.bind_some]
  · have hnone : items[axis]? = none := List.getElem?_eq_none (Nat.not_lt.1 haxis)
    have hplace : (List.range items.length)[axis]? = none :=
      List.getElem?_eq_none (by rw [List.length_range]; exact Nat.not_lt.1 haxis)
    rw [hnone, hplace, Option.bind_none]

/-- Rearranged twice, the items stand as the composed order puts them. -/
theorem rearrange_rearrange (h : ∀ place ∈ places, place < items.length) (second : List Nat) :
    rearrange (rearrange items places) second = rearrange items (rearrange places second) := by
  have hlook : (fun axis => (rearrange items places)[axis]?) =
      fun axis => places[axis]?.bind (items[·]?) := funext (getElem?_rearrange h)
  rw [rearrange, hlook, rearrange, rearrange, List.filterMap_filterMap]

theorem rearrange_perm (h : places.Perm (List.range items.length)) :
    (rearrange items places).Perm items := by
  have hperm := h.filterMap (items[·]?)
  rwa [← rearrange, ← rearrange, rearrange_range] at hperm

theorem rearrange_inverseOrder (h : places.Perm (List.range rank)) :
    rearrange places (inverseOrder places) = List.range rank := by
  have hlength := (perm_range_iff.1 h).1
  have hfound : ∀ axis ∈ List.range rank, places[places.idxOf axis]? = some axis :=
    fun axis haxis => List.getElem?_idxOf (h.mem_iff.2 haxis)
  rw [rearrange, inverseOrder, hlength, List.filterMap_map]
  exact (List.filterMap_congr hfound).trans List.filterMap_some

theorem inverseOrder_perm (h : places.Perm (List.range rank)) :
    (inverseOrder places).Perm (List.range rank) := by
  have hlength := (perm_range_iff.1 h).1
  have hmem : ∀ axis ∈ List.range rank, axis ∈ places := fun axis haxis => h.mem_iff.2 haxis
  rw [inverseOrder, hlength, perm_range_iff]
  refine ⟨by simp, ?_, ?_⟩
  · apply List.Nodup.map_on _ List.nodup_range
    intro axis haxis other _ hsame
    exact (List.idxOf_inj (hmem axis haxis)).1 hsame
  · rw [List.forall_mem_map]
    exact fun axis haxis => hlength ▸ List.idxOf_lt_length_iff.2 (hmem axis haxis)

end

/-! ### The check of an order -/

/-- Looks up and sets the mark of an axis; there is nothing to look up outside of the table. -/
def mark? (marks : List Bool) (axis : Nat) : Option (Bool × List Bool) :=
  marks[axis]?.map fun seen => (seen, marks.set axis true)

/-- The check of an order with a table of marks. -/
def markAll? (rank : Nat) (marks : List Bool) : List Nat → Option Bool
  | [] => some true
  | axis :: rest =>
    if axis < rank then do
      let (seen, marks) ← mark? marks axis
      if seen then some false else markAll? rank marks rest
    else some false

/-- Permuting with a table of marks. A look-up outside of the table or of the input has no result. -/
def permuteMarked? (input : Shape) (places : List Nat) : Option (Option Shape) := do
  let accepted ← if places.length = input.length then
    markAll? input.length (List.replicate input.length false) places else some false
  if accepted then some (some (← places.mapM (input[·]?))) else some none

section

variable {rank : Nat} {seen places : List Nat}

theorem distinctBelow_iff : distinctBelow rank seen places = true ↔
    places.Nodup ∧ ∀ place ∈ places, place < rank ∧ place ∉ seen := by
  induction places generalizing seen with
  | nil => simp [distinctBelow]
  | cons place rest ih =>
    have hstep : distinctBelow rank seen (place :: rest) = true ↔
        (place < rank ∧ place ∉ seen) ∧ distinctBelow rank (place :: seen) rest = true := by
      simp [distinctBelow]
    rw [hstep, ih, List.nodup_cons, List.forall_mem_cons]
    constructor
    · rintro ⟨hplace, hnodup, hrest⟩
      exact ⟨⟨fun hmem => (hrest place hmem).2 List.mem_cons_self, hnodup⟩, hplace,
        fun other hother => ⟨(hrest other hother).1,
          fun hmem => (hrest other hother).2 (List.mem_cons_of_mem _ hmem)⟩⟩
    · rintro ⟨⟨hfresh, hnodup⟩, hplace, hrest⟩
      refine ⟨hplace, hnodup, fun other hother => ⟨(hrest other hother).1, fun hmem => ?_⟩⟩
      rcases List.mem_cons.1 hmem with rfl | hmem
      · exact hfresh hother
      · exact (hrest other hother).2 hmem

theorem perm_range_iff_distinctBelow : places.Perm (List.range rank) ↔
    places.length = rank ∧ distinctBelow rank [] places = true := by
  rw [perm_range_iff, distinctBelow_iff]
  simp

/-- The table knows the axes seen so far, and a place is looked up only after it was found to be an axis. -/
theorem markAll?_eq {marks : List Bool}
    (hmarks : ∀ axis < rank, marks[axis]? = some (decide (axis ∈ seen))) :
    markAll? rank marks places = some (distinctBelow rank seen places) := by
  induction places generalizing seen marks with
  | nil => rfl
  | cons place rest ih =>
    rw [markAll?, distinctBelow]
    by_cases hplace : place < rank
    · have hnext : ∀ axis < rank,
          (marks.set place true)[axis]? = some (decide (axis ∈ place :: seen)) := by
        intro axis haxis
        by_cases hsame : place = axis
        · subst hsame
          have hinside := (List.getElem?_eq_some_iff.1 (hmarks place hplace)).1
          simp [hinside]
        · rw [List.getElem?_set_ne hsame, hmarks axis haxis]
          simp [Ne.symm hsame]
      rw [if_pos hplace, mark?, hmarks place hplace]
      by_cases hseen : place ∈ seen
      · simp [hplace, hseen]
      · simp [hplace, hseen, ih hnext]
    · rw [if_neg hplace]
      simp [hplace]

theorem permuteMarked?_eq (input : Shape) (places : List Nat) : permuteMarked? input places =
    some (if places.Perm (List.range input.length) then some (rearrange input places) else none) := by
  have hmarks : markAll? input.length (List.replicate input.length false) places =
      some (distinctBelow input.length [] places) := by
    apply markAll?_eq
    intro axis haxis
    simp [haxis]
  unfold permuteMarked?
  by_cases hperm : places.Perm (List.range input.length)
  · obtain ⟨hlength, hdistinct⟩ := perm_range_iff_distinctBelow.1 hperm
    rw [if_pos hperm, if_pos hlength, hmarks, hdistinct, mapM_eq_rearrange (perm_range_iff.1 hperm).2.2]
    rfl
  · rw [if_neg hperm]
    by_cases hlength : places.length = input.length
    · have hrefused : distinctBelow input.length [] places = false := by
        rw [← Bool.not_eq_true]
        exact fun hdistinct => hperm (perm_range_iff_distinctBelow.2 ⟨hlength, hdistinct⟩)
      rw [if_pos hlength, hmarks, hrefused]
      rfl
    · rw [if_neg hlength]
      rfl

end

/-! ### The rule -/

section

variable {params : Params} {places : List Nat}

theorem permute_eq (hplaces : GivesOrder params places) (input : Shape) (rest : List Shape)
    (blobs : Blobs) : permute (input :: rest) params blobs =
      if places.Perm (List.range input.length) then .ok [rearrange input places]
      else .error (invalid params "order") := by
  obtain ⟨order, horder, rfl⟩ := hplaces
  simp only [permute, firstInput, ok_bind, horder, required, perm_range_iff_distinctBelow]
  rfl

/-- Permuting by an order of the axes. -/
theorem permute_eq_ok (hplaces : GivesOrder params places) {input : Shape}
    (hperm : places.Perm (List.range input.length)) (rest : List Shape) (blobs : Blobs) :
    permute (input :: rest) params blobs = .ok [rearrange input places] := by
  rw [permute_eq hplaces, if_pos hperm]

end

/-- Orders that are permutations of the axes are accepted, all others are refused. The output takes its
dimensions from the places of the order; the inverse order leads back, and a second order has the effect of
the composed one. No order makes the check look outside of its table or of the input. -/
theorem permute_exact {params : Params} {places : List Nat} (hplaces : GivesOrder params places)
    (input : Shape) (rest : List Shape) (blobs : Blobs) :
    (places.Perm (List.range input.length) → ∃ output : Shape,
      permute (input :: rest) params blobs = .ok [output] ∧
      permuteMarked? input places = some (some output) ∧
      (∀ axis : Nat, output[axis]? = places[axis]?.bind (input[·]?)) ∧ output.Perm input ∧
      (∀ back, GivesOrder back (inverseOrder places) → ∀ rest blobs,
        permute (output :: rest) back blobs = .ok [input]) ∧
      ∀ next both second, GivesOrder next second → GivesOrder both (rearrange places second) →
        second.Perm (List.range input.length) → ∃ result, ∀ rest blobs,
          permute (output :: rest) next blobs = .ok [result] ∧
            permute (input :: rest) both blobs = .ok [result]) ∧
    (¬ places.Perm (List.range input.length) →
      permute (input :: rest) params blobs = .error (invalid params "order") ∧
      permuteMarked? input places = some none) := by
  constructor
  · intro hperm
    have hbelow := (perm_range_iff.1 hperm).2.2
    have hlength := (perm_range_iff.1 hperm).1
    have hrank : (rearrange input places).length = input.length := (rearrange_perm hperm).length_eq
    refine ⟨rearrange input places, permute_eq_ok hplaces hperm rest blobs, ?_,
      getElem?_rearrange hbelow, rearrange_perm hperm, fun back hback rest blobs => ?_,
      fun next both second hnext hboth hsecond => ⟨rearrange input (rearrange places second),
        fun rest blobs => ⟨?_, ?_⟩⟩⟩
    · rw [permuteMarked?_eq, if_pos hperm]
    · rw [permute_eq_ok hback (hrank.symm ▸ inverseOrder_perm hperm), rearrange_rearrange hbelow,
        rearrange_inverseOrder hperm, rearrange_range]
    · rw [permute_eq_ok hnext (hrank.symm ▸ hsecond), rearrange_rearrange hbelow]
    · have hcomposed : (rearrange places second).Perm (List.range input.length) :=
        (rearrange_perm (hlength.symm ▸ hsecond)).trans hperm
      rw [permute_eq_ok hboth hcomposed]
  · intro hperm
    rw [permute_eq hplaces, permuteMarked?_eq, if_neg hperm, if_neg hperm]
    exact ⟨rfl, rfl⟩

/-- Channels are moved to the end and back, and an order that has an axis twice is refused. -/
theorem channels_permute :
    GivesOrder (Dictionary.empty.insert "order" "0, 2, 3, 1") [0, 2, 3, 1] ∧
    (∃ output : Shape, output.Perm [1, 3, 8, 16] ∧
      permute [[1, 3, 8, 16]] (Dictionary.empty.insert "order" "0, 2, 3, 1") .empty = .ok [output] ∧
      permute [output] (Dictionary.empty.insert "order" "0, 3, 1, 2") .empty = .ok [[1, 3, 8, 16]] ∧
      ∃ result, permute [output] (Dictionary.empty.insert "order" "3, 2, 1, 0") .empty = .ok [result] ∧
        permute [[1, 3, 8, 16]] (Dictionary.empty.insert "order" "1, 3, 2, 0") .empty = .ok [result]) ∧
    GivesOrder (Dictionary.empty.insert "order" "0, 1, 1, 2") [0, 1, 1, 2] ∧
    permute [[1, 3, 8, 16]] (Dictionary.empty.insert "order" "0, 1, 1, 2") .empty =
      .error (invalid (Dictionary.empty.insert "order" "0, 1, 1, 2") "order") := by
  have hlast : GivesOrder (Dictionary.empty.insert "order" "0, 2, 3, 1") [0, 2, 3, 1] :=
    ⟨[0, 2, 3, 1], by decide +kernel, rfl⟩
  have hfirst : GivesOrder (Dictionary.empty.insert "order" "0, 3, 1, 2") [0, 3, 1, 2] :=
    ⟨[0, 3, 1, 2], by decide +kernel, rfl⟩
  have hreversed : GivesOrder (Dictionary.empty.insert "order" "3, 2, 1, 0") [3, 2, 1, 0] :=
    ⟨[3, 2, 1, 0], by decide +kernel, rfl⟩
  have hboth : GivesOrder (Dictionary.empty.insert "order" "1, 3, 2, 0") [1, 3, 2, 0] :=
    ⟨[1, 3, 2, 0], by decide +kernel, rfl⟩
  have htwice : GivesOrder (Dictionary.empty.insert "order" "0, 1, 1, 2") [0, 1, 1, 2] :=
    ⟨[0, 1, 1, 2], by decide +kernel, rfl⟩
  obtain ⟨output, houtput, -, -, hperm, hback, hnext⟩ :=
    (permute_exact hlast [1, 3, 8, 16] [] .empty).1 (by decide)
  obtain ⟨result, hresult⟩ := hnext _ _ [3, 2, 1, 0] hreversed hboth (by decide)
  exact ⟨hlast, ⟨output, hperm, houtput, hback _ hfirst [] .empty, result, hresult [] .empty⟩, htwice,
    ((permute_exact htwice [1, 3, 8, 16] [] .empty).2 (by decide)).1⟩

end ShapeFlow.Rule
