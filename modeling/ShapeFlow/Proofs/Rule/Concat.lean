import Mathlib.Algebra.GroupWithZero.Nat
import ShapeFlow.Proofs.Rule.Parameter
import ShapeFlow.Proofs.Shape
import ShapeFlow.Rule.Arrangement

/-!
Joining shapes along an axis adds up their sizes there. The shapes must agree on all other axes and the
sum must fit into a word; the first input that breaks one of the two decides the refusal. Joining is
associative: parts that can be joined on their own may be joined first.
-/

namespace ShapeFlow.Rule

/-- The axis as it is given, which is 1 by default. -/
def GivesAxis (params : Params) (given : Int) : Prop :=
  params.get? "axis" = none ∧ given = 1 ∨
    ∃ text, params.get? "axis" = some text ∧ Text.integer? (Text.trim text.toList) = some given

/-- The parameters name an axis below the rank; a negative one is counted from the end. -/
def JoinsAlong (params : Params) (rank axis : Nat) : Prop :=
  axis < rank ∧ ∃ given : Int, GivesAxis params given ∧ (given = axis ∨ given + rank = axis)

/-- The two shapes have the same rank and the same dimensions off the axis. -/
def Joinable (axis : Nat) (first shape : Shape) : Prop :=
  shape.length = first.length ∧ ∀ place, place ≠ axis → shape[place]? = first[place]?

def sizeAt (axis : Nat) (shape : Shape) : Nat :=
  (shape[axis]?.map UInt64.toNat).getD 0

/-- The sizes of the shapes on the axis, added up over unbounded numbers. -/
def joinedSize (axis : Nat) (shapes : List Shape) : Nat :=
  (shapes.map (sizeAt axis)).sum

/-- The first shape, with the joined size on the axis. -/
def Joined (axis : Nat) (first : Shape) (rest : List Shape) (output : Shape) : Prop :=
  ∃ size : Dim, size.toNat = joinedSize axis (first :: rest) ∧ output = first.set axis size

/-! ### The axis -/

section

variable {params : Params} {rank axis other : Nat} {given : Int}

theorem normalizeAxis?_eq_some_iff : normalizeAxis? given rank = some axis ↔
    axis < rank ∧ (given = axis ∨ given + rank = axis) := by
  unfold normalizeAxis?
  dsimp only
  split_ifs <;> simp only [Option.some.injEq, false_iff] <;> omega

theorem givesAxis_iff : GivesAxis params given ↔
    ∃ value, scalar? Text.integer? params "axis" = .ok value ∧ value.getD 1 = given := by
  simp only [GivesAxis, scalar?_eq_ok_iff]
  constructor
  · rintro (⟨habsent, rfl⟩ | ⟨text, htext, hvalue⟩)
    · exact ⟨none, .inl ⟨habsent, rfl⟩, rfl⟩
    · exact ⟨some given, .inr ⟨text, given, htext, hvalue, rfl⟩, rfl⟩
  · rintro ⟨value, ⟨habsent, rfl⟩ | ⟨text, parsed, htext, hparsed, rfl⟩, rfl⟩
    · exact .inl ⟨habsent, rfl⟩
    · exact .inr ⟨text, htext, hparsed⟩

theorem GivesAxis.unique {other : Int} (h : GivesAxis params given) (hother : GivesAxis params other) :
    given = other := by
  obtain ⟨value, hvalue, rfl⟩ := givesAxis_iff.1 h
  obtain ⟨value', hvalue', rfl⟩ := givesAxis_iff.1 hother
  rw [hvalue, Except.ok.injEq] at hvalue'
  rw [hvalue']

theorem JoinsAlong.unique (h : JoinsAlong params rank axis) (hother : JoinsAlong params rank other) :
    axis = other := by
  obtain ⟨hlt, given, hgiven, haxis⟩ := h
  obtain ⟨hlt', given', hgiven', haxis'⟩ := hother
  rw [hgiven.unique hgiven'] at haxis
  omega

end

/-! ### Shapes that agree off the axis -/

section

variable {axis : Nat} {first shape other : Shape}

theorem Joinable.symm (h : Joinable axis first shape) : Joinable axis shape first :=
  ⟨h.1.symm, fun place hplace => (h.2 place hplace).symm⟩

theorem Joinable.trans (h : Joinable axis first shape) (hother : Joinable axis shape other) :
    Joinable axis first other :=
  ⟨hother.1.trans h.1, fun place hplace => (hother.2 place hplace).trans (h.2 place hplace)⟩

theorem joinable_set (axis : Nat) (first : Shape) (size : Dim) :
    Joinable axis first (first.set axis size) :=
  ⟨List.length_set, fun _ hplace => List.getElem?_set_ne (Ne.symm hplace)⟩

theorem agreeOff_iff : agreeOff axis shape first = true ↔ Joinable axis first shape := by
  rw [agreeOff, Bool.and_eq_true, beq_iff_eq, beq_iff_eq, Joinable]
  refine and_congr_right fun _ => ⟨fun hsame place hplace => ?_, fun hsame => ?_⟩
  · rcases Nat.lt_or_gt_of_ne hplace with hbefore | hafter
    · have hplaces := congrArg (·[place]?) hsame
      simpa [List.getElem?_eraseIdx, hbefore] using hplaces
    · have hplaces := congrArg (·[place - 1]?) hsame
      have hlater : ¬ place - 1 < axis := by omega
      have hback : place - 1 + 1 = place := by omega
      simpa [List.getElem?_eraseIdx, hlater, hback] using hplaces
  · ext1 place
    rw [List.getElem?_eraseIdx, List.getElem?_eraseIdx]
    split
    · exact hsame place (by omega)
    · exact hsame (place + 1) (by omega)

instance (axis : Nat) (first shape : Shape) : Decidable (Joinable axis first shape) :=
  decidable_of_iff _ agreeOff_iff

theorem sizeAt_set (haxis : axis < first.length) (size : Dim) :
    sizeAt axis (first.set axis size) = size.toNat := by
  simp [sizeAt, haxis]

theorem joinedSize_append (axis : Nat) (left right : List Shape) :
    joinedSize axis (left ++ right) = joinedSize axis left + joinedSize axis right := by
  rw [joinedSize, List.map_append, List.sum_append, joinedSize, joinedSize]

end

/-- Why an input cannot be joined to the first one and those between. -/
def joinFaults (axis : Nat) (first : Shape) (done : List Shape) (shape : Shape) : List RuleError :=
  if ¬ Joinable axis first shape then [.incompatibleShapes "Concat" first shape]
  else if UInt64.size ≤ joinedSize axis (first :: (done ++ [shape])) then [.overflow "Concat" shape]
  else []

/-! ### The chain of inputs -/

section

variable {axis : Nat} {first : Shape} {done rest : List Shape}

theorem joined_nil (haxis : axis < first.length) : Joined axis first [] first := by
  refine ⟨first[axis], ?_, (List.set_getElem_self haxis).symm⟩
  simp [joinedSize, sizeAt, haxis]

theorem Joined.unique {output other : Shape} (h : Joined axis first rest output)
    (hother : Joined axis first rest other) : output = other := by
  obtain ⟨size, hsize, rfl⟩ := h
  obtain ⟨size', hsize', rfl⟩ := hother
  rw [UInt64.toNat_inj.1 (hsize.trans hsize'.symm)]

theorem extend?_eq (haxis : axis < first.length) {shape : Shape} (hrank : shape.length = first.length)
    (size : Dim) : extend? axis (first.set axis size) shape =
      (Dim.ofNat? (size.toNat + sizeAt axis shape)).map (first.set axis ·) := by
  have hsize : (first.set axis size)[axis]? = some size := List.getElem?_set_self haxis
  obtain ⟨other, hother⟩ : ∃ other, shape[axis]? = some other :=
    ⟨_, List.getElem?_eq_getElem (hrank ▸ haxis)⟩
  simp only [extend?, sizeAt, hsize, hother, Option.map_some, Option.getD_some, Option.bind_eq_bind,
    Option.bind_some, List.set_set, Dim.add?]
  cases Dim.ofNat? (size.toNat + other.toNat) <;> rfl

/-- The accumulator stands for all inputs so far, while each of them is compared with the first. -/
theorem decided_join (haxis : axis < first.length) {output : Shape} (h : Joined axis first done output)
    (shape : Shape) : Decided (Joined axis first (done ++ [shape])) (joinFaults axis first done shape)
      (join axis first output shape) := by
  obtain ⟨size, hsize, rfl⟩ := h
  have hsum : joinedSize axis (first :: (done ++ [shape])) = size.toNat + sizeAt axis shape := by
    rw [← List.cons_append, joinedSize_append, hsize]
    simp [joinedSize]
  rw [joinFaults, join, hsum]
  by_cases hjoinable : Joinable axis first shape
  · rw [if_neg (not_not.2 hjoinable), if_pos (agreeOff_iff.2 hjoinable),
      extend?_eq haxis hjoinable.1]
    cases hnext : Dim.ofNat? (size.toNat + sizeAt axis shape) with
    | none =>
      rw [if_pos (Dim.ofNat?_eq_none_iff.1 hnext)]
      exact .refused _ []
    | some next =>
      have hnext := Dim.toNat_of_ofNat? hnext
      have hfits := next.toNat_lt_size
      rw [if_neg (by omega)]
      exact .accepted ⟨next, hnext.trans hsum.symm, rfl⟩
  · rw [if_pos hjoinable, if_neg (mt agreeOff_iff.1 hjoinable)]
    exact .refused _ []

theorem decided_joinAll (haxis : axis < first.length) (rest : List Shape) :
    Decided (Joined axis first rest) (faultsAfter (joinFaults axis first) [] rest)
      (rest.foldlM (join axis first) first) := by
  apply Decided.foldlM (Joined axis first) (joined_nil haxis)
  intro done shape _ output _ houtput
  exact decided_join haxis houtput shape

/-- Sizes only add up, so that an input that does not fit any more is missed nowhere. -/
theorem faultsAfter_eq_nil_iff (hdone : joinedSize axis (first :: done) < UInt64.size) :
    faultsAfter (joinFaults axis first) done rest = [] ↔
      (∀ shape ∈ rest, Joinable axis first shape) ∧
        joinedSize axis (first :: (done ++ rest)) < UInt64.size := by
  induction rest generalizing done with
  | nil => simp [faultsAfter, hdone]
  | cons shape rest ih =>
    rw [faultsAfter, List.append_eq_nil_iff, List.forall_mem_cons, List.append_cons done shape rest]
    by_cases hjoinable : Joinable axis first shape
    · by_cases hfits : joinedSize axis (first :: (done ++ [shape])) < UInt64.size
      · have hfaults : joinFaults axis first done shape = [] := by
          rw [joinFaults, if_neg (not_not.2 hjoinable), if_neg (Nat.not_le.2 hfits)]
        simp [hfaults, ih hfits, hjoinable]
      · have hfaults : joinFaults axis first done shape ≠ [] := by
          rw [joinFaults, if_neg (not_not.2 hjoinable), if_pos (Nat.not_lt.1 hfits)]
          exact List.cons_ne_nil _ _
        have hlarge : ¬ joinedSize axis (first :: (done ++ [shape] ++ rest)) < UInt64.size := by
          rw [← List.cons_append, joinedSize_append]
          omega
        simp only [hfaults, hlarge, false_and, and_false]
    · have hfaults : joinFaults axis first done shape ≠ [] := by
        rw [joinFaults, if_pos hjoinable]
        exact List.cons_ne_nil _ _
      simp only [hfaults, hjoinable, false_and]

end

/-! ### The rule -/

section

variable {params : Params} {blobs : Blobs} {axis : Nat} {first : Shape} {rest : List Shape}

theorem decided_concat (haxis : JoinsAlong params first.length axis) (rest : List Shape)
    (blobs : Blobs) :
    Decided (fun shapes => ∃ output, shapes = [output] ∧ Joined axis first rest output)
      (faultsAfter (joinFaults axis first) [] rest) (concat (first :: rest) params blobs) := by
  obtain ⟨hlt, given, hgiven, haxis⟩ := haxis
  obtain ⟨value, hvalue, rfl⟩ := givesAxis_iff.1 hgiven
  simp only [concat, firstInput, ok_bind, hvalue, normalizeAxis?_eq_some_iff.2 ⟨hlt, haxis⟩, List.tail_cons]
  exact (decided_joinAll hlt rest).bind_ok fun output houtput => ⟨output, rfl, houtput⟩

theorem exists_concat_iff (haxis : JoinsAlong params first.length axis) (rest : List Shape)
    (blobs : Blobs) : (∃ shapes, concat (first :: rest) params blobs = .ok shapes) ↔
      (∀ shape ∈ rest, Joinable axis first shape) ∧ joinedSize axis (first :: rest) < UInt64.size := by
  obtain ⟨size, hsize, -⟩ := joined_nil haxis.1
  rw [(decided_concat haxis rest blobs).exists_ok_iff,
    faultsAfter_eq_nil_iff (hsize ▸ size.toNat_lt_size), List.nil_append]

theorem joinsAlong_of_concat {shapes : List Shape} (h : concat (first :: rest) params blobs = .ok shapes) :
    ∃ axis, JoinsAlong params first.length axis := by
  simp only [concat, firstInput, ok_bind, bind_eq_ok_iff] at h
  obtain ⟨value, hvalue, h⟩ := h
  split at h
  · cases h
  · next axis haxis =>
    obtain ⟨hlt, haxis⟩ := normalizeAxis?_eq_some_iff.1 haxis
    exact ⟨axis, hlt, _, givesAxis_iff.2 ⟨value, hvalue, rfl⟩, haxis⟩

theorem concat_eq_ok_iff (haxis : JoinsAlong params first.length axis) {shapes : List Shape} :
    concat (first :: rest) params blobs = .ok shapes ↔
      (∀ shape ∈ rest, Joinable axis first shape) ∧
        ∃ output, shapes = [output] ∧ Joined axis first rest output := by
  have hdecided := decided_concat haxis rest blobs
  constructor
  · intro h
    exact ⟨((exists_concat_iff haxis rest blobs).1 ⟨shapes, h⟩).1, hdecided.expected_of_ok h⟩
  · rintro ⟨hjoinable, output, rfl, hjoined⟩
    have ⟨size, hsize, _⟩ := hjoined
    obtain ⟨shapes, hshapes⟩ :=
      (exists_concat_iff haxis rest blobs).2 ⟨hjoinable, hsize ▸ size.toNat_lt_size⟩
    obtain ⟨other, rfl, hother⟩ := hdecided.expected_of_ok hshapes
    rw [hshapes, hother.unique hjoined]

/-- Shapes of one rank that were joined on their own are joined as their inputs would be. -/
theorem joined_pair_iff {second output : Shape} {others : List Shape} {size size' : Dim}
    (haxis : axis < first.length) (haxis' : axis < second.length)
    (hsize : size.toNat = joinedSize axis (first :: rest))
    (hsize' : size'.toNat = joinedSize axis (second :: others)) :
    Joined axis (first.set axis size) [second.set axis size'] output ↔
      Joined axis first (rest ++ second :: others) output := by
  have hsum : joinedSize axis [first.set axis size, second.set axis size'] =
      joinedSize axis (first :: (rest ++ second :: others)) := by
    rw [← List.cons_append, joinedSize_append, ← hsize, ← hsize']
    simp [joinedSize, sizeAt_set haxis, sizeAt_set haxis']
  unfold Joined
  rw [hsum]
  simp only [List.set_set]

theorem forall_joinable_append_iff {second : Shape} {others : List Shape}
    (hrest : ∀ shape ∈ rest, Joinable axis first shape)
    (hothers : ∀ shape ∈ others, Joinable axis second shape) :
    (∀ shape ∈ rest ++ second :: others, Joinable axis first shape) ↔ Joinable axis first second := by
  constructor
  · intro hall
    exact hall second (by simp)
  · intro hsecond shape hshape
    rcases List.mem_append.1 hshape with hshape | hshape
    · exact hrest shape hshape
    · rcases List.mem_cons.1 hshape with rfl | hshape
      · exact hsecond
      · exact hsecond.trans (hothers shape hshape)

theorem concat_pair_iff {left right shapes : List Shape} {a b : Shape}
    (hleft : concat left params blobs = .ok [a]) (hright : concat right params blobs = .ok [b]) :
    concat [a, b] params blobs = .ok shapes ↔ concat (left ++ right) params blobs = .ok shapes := by
  cases left with
  | nil => cases hleft
  | cons first rest =>
    cases right with
    | nil => cases hright
    | cons second others =>
      obtain ⟨axis, haxis⟩ := joinsAlong_of_concat hleft
      obtain ⟨axis', haxis'⟩ := joinsAlong_of_concat hright
      obtain ⟨hrest, _, ⟨⟩, size, hsize, rfl⟩ := (concat_eq_ok_iff haxis).1 hleft
      obtain ⟨hothers, _, ⟨⟩, size', hsize', rfl⟩ := (concat_eq_ok_iff haxis').1 hright
      have hfirst := joinable_set axis first size
      have hsecond := joinable_set axis' second size'
      rw [List.cons_append, concat_eq_ok_iff haxis, concat_eq_ok_iff (hfirst.1 ▸ haxis)]
      simp only [List.forall_mem_singleton]
      by_cases hrank : second.length = first.length
      · -- shapes of one rank are joined along one axis
        have hsame : axis' = axis := (hrank ▸ haxis').unique haxis
        subst hsame
        have hparts : Joinable axis' (first.set axis' size) (second.set axis' size') ↔
            Joinable axis' first second :=
          ⟨fun h => (hfirst.trans h).trans hsecond.symm, fun h => (hfirst.symm.trans h).trans hsecond⟩
        rw [hparts, forall_joinable_append_iff hrest hothers]
        simp only [joined_pair_iff haxis.1 haxis'.1 hsize hsize']
      · constructor
        · rintro ⟨hjoinable, -⟩
          exact absurd (hsecond.1.symm.trans (hjoinable.1.trans hfirst.1)) hrank
        · rintro ⟨hjoinable, -⟩
          exact absurd (hjoinable second (by simp)).1 hrank

end

/-- Inputs are joined exactly if they agree off the axis and their sizes on it add up to a word; else the
first one that does not fit decides the refusal. What was joined in two parts is joined as a whole. -/
theorem concat_exact (params : Params) (blobs : Blobs) :
    (∀ (first : Shape) (axis : Nat), JoinsAlong params first.length axis → ∀ rest : List Shape,
      ((∃ shapes, concat (first :: rest) params blobs = .ok shapes) ↔
        (∀ shape ∈ rest, Joinable axis first shape) ∧
          joinedSize axis (first :: rest) < UInt64.size) ∧
      Decided (fun shapes => ∃ output, shapes = [output] ∧ Joined axis first rest output)
        (faultsAfter (joinFaults axis first) [] rest) (concat (first :: rest) params blobs)) ∧
    ∀ (left right : List Shape) (a b : Shape), concat left params blobs = .ok [a] →
      concat right params blobs = .ok [b] → ∀ shapes, concat [a, b] params blobs = .ok shapes ↔
        concat (left ++ right) params blobs = .ok shapes :=
  ⟨fun _ _ haxis rest => ⟨exists_concat_iff haxis rest blobs, decided_concat haxis rest blobs⟩,
    fun _ _ _ _ hleft hright _ => concat_pair_iff hleft hright⟩

/-- Parameters that name the last axis. -/
def lastAxis : Params := Dictionary.empty.insert "axis" "-1"

/-- Rows joined in pairs have the length of all rows together. -/
theorem rows_concat :
    JoinsAlong lastAxis 2 1 ∧ (∃ shapes, concat [[2, 3], [2, 4]] lastAxis .empty = .ok shapes) ∧
    concat [[2, 3], [2, 4]] lastAxis .empty = .ok [[2, 7]] ∧
    concat [[2, 5], [2, 6]] lastAxis .empty = .ok [[2, 11]] ∧
    concat [[2, 3], [2, 4], [2, 5], [2, 6]] lastAxis .empty = .ok [[2, 18]] := by
  have hlast : JoinsAlong lastAxis 2 1 :=
    ⟨by decide, -1, .inr ⟨"-1", by decide +kernel, by decide +kernel⟩, .inr rfl⟩
  have hleft : concat [[2, 3], [2, 4]] lastAxis .empty = .ok [[2, 7]] := by decide +kernel
  have hright : concat [[2, 5], [2, 6]] lastAxis .empty = .ok [[2, 11]] := by decide +kernel
  have hparts : concat [[2, 7], [2, 11]] lastAxis .empty = .ok [[2, 18]] := by decide +kernel
  obtain ⟨hexact, hassoc⟩ := concat_exact lastAxis .empty
  refine ⟨hlast, (hexact [2, 3] 1 hlast [[2, 4]]).1.2 ⟨by decide +kernel, by decide +kernel⟩, hleft, hright,
    (hassoc [[2, 3], [2, 4]] [[2, 5], [2, 6]] [2, 7] [2, 11] hleft hright [[2, 18]]).1 hparts⟩

end ShapeFlow.Rule
