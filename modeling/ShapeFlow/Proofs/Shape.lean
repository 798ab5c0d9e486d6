import Mathlib.Data.List.Infix
import Mathlib.Order.Bounds.Basic
import ShapeFlow.Tensor

/-!
Arithmetic on dimensions. A chain of checked sums and products has a result exactly if the exact value
fits into a word; rounded up, a quotient is the least number of parts that cover the whole. The elements
of a shape can be counted exactly if every product of its leading dimensions fits into a word.
-/

namespace ShapeFlow

namespace Dim

theorem ofNat?_eq_some_iff {value : Nat} {dim : Dim} : ofNat? value = some dim ↔ dim.toNat = value :=
  ⟨toNat_of_ofNat?, fun h => h ▸ ofNat?_toNat dim⟩

theorem exists_toNat_eq {value : Nat} (h : value < UInt64.size) : ∃ dim : Dim, dim.toNat = value :=
  ⟨UInt64.ofNat value, UInt64.toNat_ofNat_of_lt' h⟩

/-- A sum that exceeds a word is refused wherever in the chain the limit is passed. -/
theorem bind_add?_ofNat? (value : Nat) (dim : Dim) :
    (ofNat? value).bind (add? · dim) = ofNat? (value + dim.toNat) := by
  cases hvalue : ofNat? value with
  | none =>
    rw [ofNat?_eq_none_iff] at hvalue
    rw [Option.bind_none, eq_comm, ofNat?_eq_none_iff]
    omega
  | some word => rw [Option.bind_some, add?, toNat_of_ofNat? hvalue]

theorem toNat_pos {dim : Dim} (h : dim ≠ 0) : 0 < dim.toNat := by
  rw [Nat.pos_iff_ne_zero]
  exact fun hzero => h (UInt64.toNat_inj.1 hzero)

section

variable {whole part : Dim}

/-- A quotient that leaves a remainder is far below the limit of a word. -/
theorem toNat_ceilDiv (h : part ≠ 0) : (ceilDiv whole part).toNat =
    whole.toNat / part.toNat + if whole.toNat % part.toNat = 0 then 0 else 1 := by
  have hpart := toNat_pos h
  have hwhole := whole.toNat_lt
  have hexact : whole % part = 0 ↔ whole.toNat % part.toNat = 0 := by
    rw [← UInt64.toNat_inj, UInt64.toNat_mod]
    rfl
  unfold ceilDiv
  by_cases hmod : whole.toNat % part.toNat = 0
  · rw [if_pos (hexact.2 hmod), if_pos hmod, UInt64.toNat_div, Nat.add_zero]
  · have hparts : 2 ≤ part.toNat := by
      by_contra hlt
      have hone : part.toNat = 1 := by omega
      exact hmod (by rw [hone, Nat.mod_one])
    have hhalf : whole.toNat / part.toNat ≤ whole.toNat / 2 := Nat.div_le_div_left hparts (by omega)
    rw [if_neg (mt hexact.1 hmod), if_neg hmod, UInt64.toNat_add, UInt64.toNat_div, UInt64.toNat_one]
    exact Nat.mod_eq_of_lt (by omega)

theorem isLeast_ceilDiv (h : part ≠ 0) :
    IsLeast {count | whole.toNat ≤ count * part.toNat} (ceilDiv whole part).toNat := by
  have hpart := toNat_pos h
  have hsplit : part.toNat * (whole.toNat / part.toNat) + whole.toNat % part.toNat = whole.toNat :=
    Nat.div_add_mod _ _
  have hrest := Nat.mod_lt whole.toNat hpart
  rw [toNat_ceilDiv h]
  generalize whole.toNat / part.toNat = quotient at *
  generalize whole.toNat % part.toNat = rest at *
  constructor
  · show whole.toNat ≤ _
    split
    · next hzero =>
      rw [Nat.add_zero, Nat.mul_comm]
      omega
    · rw [Nat.add_mul, Nat.mul_comm quotient]
      omega
  · intro count hcovers
    have hcount : whole.toNat ≤ count * part.toNat := hcovers
    by_contra hless
    -- one part less leaves something of the whole uncovered
    have hbelow : count + 1 ≤ quotient + if rest = 0 then 0 else 1 := by omega
    have hcovered := Nat.mul_le_mul_right part.toNat hbelow
    rw [Nat.add_mul, Nat.add_mul, Nat.mul_comm quotient] at hcovered
    split at hcovered <;> omega

theorem ceilDiv_le (h : part ≠ 0) : (ceilDiv whole part).toNat ≤ whole.toNat := by
  apply (isLeast_ceilDiv h).2
  exact Nat.le_mul_of_pos_right _ (toNat_pos h)

end

end Dim

namespace Shape

@[simp] theorem volume_cons (dim : Dim) (shape : Shape) :
    volume (dim :: shape) = dim.toNat * volume shape := rfl

/-- A single dimension of 1 can be given any other size. -/
theorem volume_set {shape : Shape} {axis : Nat} (h : shape[axis]? = some 1) (dim : Dim) :
    volume (shape.set axis dim) = volume shape * dim.toNat := by
  induction shape generalizing axis with
  | nil => cases h
  | cons first rest ih =>
    cases axis with
    | zero =>
      cases h
      rw [List.set_cons_zero, volume_cons, volume_cons, UInt64.toNat_one, Nat.one_mul, Nat.mul_comm]
    | succ axis => rw [List.set_cons_succ, volume_cons, volume_cons, ih h, Nat.mul_assoc]

/-- Every product of leading dimensions fits into a word. -/
def Countable (shape : Shape) : Prop :=
  ∀ leading ∈ shape.inits, volume leading < UInt64.size

instance (shape : Shape) : Decidable shape.Countable :=
  inferInstanceAs (Decidable (∀ leading ∈ shape.inits, volume leading < UInt64.size))

theorem foldlM_mul?_eq_some_iff {shape : Shape} {start count : Dim} :
    shape.foldlM Dim.mul? start = some count ↔
      (∀ leading ∈ shape.inits, start.toNat * volume leading < UInt64.size) ∧
        count.toNat = start.toNat * volume shape := by
  have hempty : ∀ value, value * volume [] = value := Nat.mul_one
  induction shape generalizing start with
  | nil =>
    simp only [List.foldlM_nil, List.inits, List.mem_singleton, forall_eq, hempty, start.toNat_lt_size,
      true_and]
    exact ⟨fun h => by cases h; rfl, fun h => congrArg some (UInt64.toNat_inj.1 h.symm)⟩
  | cons dim rest ih =>
    have hassoc : ∀ shape : Shape,
        start.toNat * volume (dim :: shape) = start.toNat * dim.toNat * volume shape :=
      fun shape => (Nat.mul_assoc _ _ _).symm
    simp only [List.foldlM_cons, Option.bind_eq_bind, Option.bind_eq_some_iff, Dim.mul?,
      Dim.ofNat?_eq_some_iff, List.inits_cons, List.forall_mem_cons, List.forall_mem_map, hassoc, hempty,
      start.toNat_lt_size, true_and]
    constructor
    · rintro ⟨next, hnext, hrest⟩
      rw [← hnext]
      exact ih.1 hrest
    · rintro ⟨hfits, hcount⟩
      have hnext : start.toNat * dim.toNat < UInt64.size := by
        rw [← hempty (start.toNat * dim.toNat)]
        exact hfits [] ((List.mem_inits _ _).2 List.nil_prefix)
      obtain ⟨next, hnext⟩ := Dim.exists_toNat_eq hnext
      rw [← hnext] at hfits hcount
      exact ⟨next, hnext, ih.2 ⟨hfits, hcount⟩⟩

theorem elementCount?_eq_some_iff {shape : Shape} {count : Dim} :
    shape.elementCount? = some count ↔ shape.Countable ∧ count.toNat = shape.volume := by
  rw [elementCount?, foldlM_mul?_eq_some_iff]
  simp only [UInt64.toNat_one, Nat.one_mul]
  rfl

end Shape

end ShapeFlow
