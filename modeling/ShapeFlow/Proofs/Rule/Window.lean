import ShapeFlow.Proofs.Rule.Parameter
import ShapeFlow.Proofs.Shape
import ShapeFlow.Rule.Window

/-!
Windows take exactly as many positions as fit. What fits is said over unbounded numbers; the words of
the computation either hold all of it or the window is refused, so that nothing wraps around. The
first axis that does not fit decides the refusal.
-/

namespace ShapeFlow.Rule

namespace WindowAxis

/-- The extent of the dilated kernel. -/
def extent (axis : WindowAxis) : Nat :=
  (max axis.kernel.toNat 1 - 1) * axis.dilation.toNat + 1

/-- The size of the input with what is padded. -/
def padded (axis : WindowAxis) (padding : Padding) (size : Dim) : Nat :=
  match padding with
  | .valid => size.toNat
  | _ => size.toNat + axis.padBegin.toNat + axis.padEnd.toNat

/-- The window has the given number of positions: rounded down, the last of them lies within the padded
input and the next one does not; rounded up, it is the first to reach the end. With `same` padding the
strides cover the input. -/
def Counts (axis : WindowAxis) (padding : Padding) (roundUp : Bool) (size : Dim) (count : Nat) : Prop :=
  if padding = .same then IsLeast {count | size.toNat ≤ count * axis.stride.toNat} count
  else if roundUp then IsLeast {count | 0 < count ∧
    axis.padded padding size ≤ (count - 1) * axis.stride.toNat + axis.extent} count
  else 0 < count ∧ (count - 1) * axis.stride.toNat + axis.extent ≤ axis.padded padding size ∧
    axis.padded padding size < count * axis.stride.toNat + axis.extent

/-- Why the window does not fit: a word cannot hold the kernel or the padded input, or the kernel is the
larger of the two. -/
def faults (axis : WindowAxis) (padding : Padding) (size : Dim) : List WindowDefect :=
  if padding = .same then []
  else if UInt64.size ≤ axis.extent ∨ UInt64.size ≤ axis.padded padding size then [.overflow]
  else if axis.padded padding size < axis.extent then [.tooSmall]
  else []

variable {axis : WindowAxis} {padding : Padding} {roundUp : Bool} {size : Dim}

theorem effectiveKernel?_eq (axis : WindowAxis) : axis.effectiveKernel? = Dim.ofNat? axis.extent := by
  have hkernel : (max axis.kernel 1 - 1).toNat = max axis.kernel.toNat 1 - 1 := by
    rw [UInt64.toNat_sub_of_le, UInt64.toNat_max, UInt64.toNat_one]
    rw [UInt64.le_iff_toNat_le, UInt64.toNat_max, UInt64.toNat_one]
    omega
  rw [effectiveKernel?, Dim.mul?, Dim.bind_add?_ofNat?, hkernel, extent, UInt64.toNat_one]

theorem paddedSize?_eq (axis : WindowAxis) (padding : Padding) (size : Dim) :
    axis.paddedSize? padding size = Dim.ofNat? (axis.padded padding size) := by
  cases padding with
  | valid => exact (Dim.ofNat?_toNat size).symm
  | explicit => exact Dim.bind_add?_ofNat? _ _
  | same => exact Dim.bind_add?_ofNat? _ _

/-- Counted over unbounded numbers, there is one number of positions. -/
theorem Counts.unique {a b : Nat} (ha : axis.Counts padding roundUp size a)
    (hb : axis.Counts padding roundUp size b) : a = b := by
  have hdown : ∀ {a b stride extent padded : Nat}, (a - 1) * stride + extent ≤ padded →
      padded < b * stride + extent → a ≤ b := by
    intro a b stride extent padded hlast hnext
    have hless : (a - 1) * stride < b * stride := by omega
    have := Nat.lt_of_mul_lt_mul_right hless
    omega
  unfold Counts at ha hb
  split at ha
  · next hsame =>
    rw [if_pos hsame] at hb
    exact ha.unique hb
  · next hsame =>
    rw [if_neg hsame] at hb
    split at ha
    · next hup =>
      rw [if_pos hup] at hb
      exact ha.unique hb
    · next hup =>
      rw [if_neg hup] at hb
      exact Nat.le_antisymm (hdown ha.2.1 hb.2.2) (hdown hb.2.1 ha.2.2)

section

variable {padded extent stride steps : Nat}

/-- After as many whole strides as the span holds, the window still lies within the padded input. -/
theorem counts_down (hstride : 0 < stride) (hfits : extent ≤ padded) :
    ((padded - extent) / stride + 1 - 1) * stride + extent ≤ padded ∧
      padded < ((padded - extent) / stride + 1) * stride + extent := by
  have hsplit := Nat.div_add_mod (padded - extent) stride
  have hrest := Nat.mod_lt (padded - extent) hstride
  rw [Nat.add_sub_cancel, Nat.add_mul, Nat.mul_comm _ stride]
  omega

/-- The least number of strides that cover the span leads to the first position that reaches the end. -/
theorem counts_up (hfits : extent ≤ padded)
    (hsteps : IsLeast {count | padded - extent ≤ count * stride} steps) :
    IsLeast {count | 0 < count ∧ padded ≤ (count - 1) * stride + extent} (steps + 1) := by
  obtain ⟨hcovers, hleast⟩ := hsteps
  have hcovers : padded - extent ≤ steps * stride := hcovers
  constructor
  · refine ⟨Nat.succ_pos steps, ?_⟩
    rw [Nat.add_sub_cancel]
    omega
  · rintro count ⟨hpos, hreaches⟩
    have hcount : padded - extent ≤ (count - 1) * stride := by omega
    have := hleast hcount
    omega

end

theorem counts_of_fits (hstride : axis.stride ≠ 0) (hexplicit : padding ≠ .same) {extent padded : Dim}
    (hextent : extent.toNat = axis.extent) (hpadded : padded.toNat = axis.padded padding size)
    (hfits : extent ≤ padded) :
    axis.Counts padding roundUp size ((if roundUp then Dim.ceilDiv (padded - extent) axis.stride
      else (padded - extent) / axis.stride) + 1).toNat := by
  have hspan : (padded - extent).toNat = axis.padded padding size - axis.extent := by
    rw [UInt64.toNat_sub_of_le _ _ hfits, hextent, hpadded]
  have hfits : axis.extent ≤ axis.padded padding size := by
    rwa [UInt64.le_iff_toNat_le, hextent, hpadded] at hfits
  have hpos : 0 < axis.extent := Nat.succ_pos _
  have hword := padded.toNat_lt
  -- the extent is not empty, so that one step more than the span holds still is a word
  have hnext : ∀ steps : Dim, steps.toNat ≤ (padded - extent).toNat →
      (steps + 1).toNat = steps.toNat + 1 := by
    intro steps hsteps
    rw [UInt64.toNat_add, UInt64.toNat_one]
    exact Nat.mod_eq_of_lt (by omega)
  unfold Counts
  rw [if_neg hexplicit]
  split
  · rw [hnext _ (Dim.ceilDiv_le hstride)]
    apply counts_up hfits
    rw [← hspan]
    exact Dim.isLeast_ceilDiv hstride
  · have hsteps : ((padded - extent) / axis.stride).toNat =
        (axis.padded padding size - axis.extent) / axis.stride.toNat := by
      rw [UInt64.toNat_div, hspan]
    rw [hnext _ (by rw [hsteps, hspan]; exact Nat.div_le_self _ _), hsteps]
    exact ⟨Nat.succ_pos _, counts_down (Dim.toNat_pos hstride) hfits⟩

theorem decided_positions (hstride : axis.stride ≠ 0) :
    Decided (fun dim => axis.Counts padding roundUp size dim.toNat) (axis.faults padding size)
      (axis.positions padding roundUp size) := by
  unfold positions faults
  by_cases hsame : padding = .same
  · rw [if_pos hsame, if_pos hsame]
    apply Decided.accepted
    rw [Counts, if_pos hsame]
    exact Dim.isLeast_ceilDiv hstride
  rw [if_neg hsame, if_neg hsame, effectiveKernel?_eq, paddedSize?_eq]
  cases hextent : Dim.ofNat? axis.extent with
  | none =>
    rw [if_pos (.inl (Dim.ofNat?_eq_none_iff.1 hextent))]
    exact .refused _ []
  | some extent =>
    cases hpadded : Dim.ofNat? (axis.padded padding size) with
    | none =>
      rw [if_pos (.inr (Dim.ofNat?_eq_none_iff.1 hpadded))]
      exact .refused _ []
    | some padded =>
      have hextent := Dim.toNat_of_ofNat? hextent
      have hpadded := Dim.toNat_of_ofNat? hpadded
      have hwords : ¬ (UInt64.size ≤ axis.extent ∨ UInt64.size ≤ axis.padded padding size) := by
        rw [← hextent, ← hpadded, not_or, not_le, not_le]
        exact ⟨extent.toNat_lt_size, padded.toNat_lt_size⟩
      have hsmall : padded < extent ↔ axis.padded padding size < axis.extent := by
        rw [UInt64.lt_iff_toNat_lt, hextent, hpadded]
      rw [if_neg hwords]
      dsimp only
      by_cases hlarge : padded < extent
      · rw [if_pos hlarge, if_pos (hsmall.1 hlarge)]
        exact .refused _ []
      · rw [if_neg hlarge, if_neg (mt hsmall.2 hlarge)]
        exact .accepted (counts_of_fits hstride hsame hextent hpadded (UInt64.not_lt.1 hlarge))

end WindowAxis

namespace Window

/-- A window that could be read moves by at least one in every stride. -/
theorem stride_ne_zero {params : Params} {window : Window} (h : ofParams params = .ok window) :
    ∀ axis ∈ window.axes, axis.stride ≠ 0 := by
  simp only [ofParams, bind_eq_ok_iff] at h
  obtain ⟨kernel, -, strides, -, padsBegin, -, padsEnd, -, dilations, -, padding, -, h⟩ := h
  split at h
  · cases h
  · next hzero =>
    cases h
    intro axis hmem
    obtain ⟨⟨⟨⟨kernel, stride⟩, padBegin, padEnd⟩, dilation⟩, hplace, rfl⟩ := List.mem_map.1 hmem
    have hstride : stride ∈ strides :=
      (List.of_mem_zip (List.of_mem_zip (List.of_mem_zip hplace).1).1).2
    intro hnone
    exact hzero (List.contains_iff_mem.2 (hnone ▸ hstride))

/-- The shape the output has on the spatial axes, each with the exact number of positions. -/
def Exact (window : Window) (roundUp : Bool) (sizes dims : List Dim) : Prop :=
  List.Forall₂ (fun place dim => ∀ count,
    place.1.Counts window.padding roundUp place.2 count ↔ count = dim.toNat)
    (window.axes.zip sizes) dims

/-- Why the window does not fit the sizes, axis by axis. -/
def faults (window : Window) (sizes : List Dim) : List WindowDefect :=
  (window.axes.zip sizes).flatMap fun place => place.1.faults window.padding place.2

theorem decided_outputDims {window : Window} (hstrides : ∀ axis ∈ window.axes, axis.stride ≠ 0)
    {batch channels : Dim} {sizes : List Dim} (hrank : sizes.length = window.axes.length) (op : String)
    (roundUp : Bool) :
    Decided (window.Exact roundUp sizes)
      ((window.faults sizes).map (WindowDefect.toError op (batch :: channels :: sizes)))
      (window.outputDims op (batch :: channels :: sizes) roundUp) := by
  have hdims : window.outputDims op (batch :: channels :: sizes) roundUp =
      ((window.axes.zip sizes).mapM fun place : WindowAxis × Dim =>
        place.1.positions window.padding roundUp place.2).mapError
          (WindowDefect.toError op (batch :: channels :: sizes)) := by
    have hspatial : (batch :: channels :: sizes).drop 2 = sizes := rfl
    unfold outputDims
    rw [if_neg (by simp [hrank]), hspatial]
    dsimp only
    cases (window.axes.zip sizes).mapM fun place : WindowAxis × Dim =>
      place.1.positions window.padding roundUp place.2 <;> rfl
  rw [hdims]
  apply Decided.mapError
  apply Decided.mapM
  intro place hplace
  have hstride := hstrides place.1 (List.of_mem_zip hplace).1
  apply (WindowAxis.decided_positions hstride).mono
  intro dim hdim count
  exact ⟨fun hcount => hcount.unique hdim, fun hcount => hcount ▸ hdim⟩

end Window

/-! ### The layers that use windows -/

/-- The output channels of a convolution: a parameter, or else the leading dimension of the weights. -/
def GivesChannels (params : Params) (rest : List Shape) (channels : Dim) : Prop :=
  (∃ text, params.get? "output" = some text ∧ Text.dim? (Text.trim text.toList) = some channels) ∨
    params.get? "output" = none ∧ ∃ weights, rest.head? = some weights ∧ weights.head? = some channels

theorem outputChannels_eq_ok_iff {input : Shape} {rest : List Shape} {params : Params} {channels : Dim} :
    outputChannels (input :: rest) params = .ok channels ↔ GivesChannels params rest channels := by
  have hweights : (input :: rest)[1]? = rest.head? := by cases rest <;> rfl
  simp only [outputChannels, GivesChannels, bind_eq_ok_iff, scalar?_eq_ok_iff, hweights]
  constructor
  · rintro ⟨given, ⟨hnone, rfl⟩ | ⟨text, value, htext, hvalue, rfl⟩, h⟩
    · exact .inr ⟨hnone, Option.bind_eq_some_iff.1 (required_eq_ok_iff.1 h)⟩
    · cases h
      exact .inl ⟨text, htext, hvalue⟩
  · rintro (⟨text, htext, hvalue⟩ | ⟨hnone, hfound⟩)
    · exact ⟨some channels, .inr ⟨text, channels, htext, hvalue, rfl⟩, rfl⟩
    · exact ⟨none, .inl ⟨hnone, rfl⟩, required_eq_ok_iff.2 (Option.bind_eq_some_iff.2 hfound)⟩

/-- A window that could be read gives each spatial axis the exact number of positions, or is refused for
the first axis that it does not fit. The layers that use it put the batch and the channels in front. -/
theorem window_exact {params : Params} {window : Window} (hwindow : Window.ofParams params = .ok window)
    {batch channels : Dim} {sizes : List Dim} (hrank : sizes.length = window.axes.length) :
    (∀ op roundUp, Decided (window.Exact roundUp sizes)
      ((window.faults sizes).map (WindowDefect.toError op (batch :: channels :: sizes)))
      (window.outputDims op (batch :: channels :: sizes) roundUp)) ∧
    (∀ rest blobs shapes, convolution ((batch :: channels :: sizes) :: rest) params blobs = .ok shapes ↔
      ∃ dims out, window.outputDims "Convolution" (batch :: channels :: sizes) false = .ok dims ∧
        GivesChannels params rest out ∧ shapes = [batch :: out :: dims]) ∧
    ∀ rest blobs shapes, pooling ((batch :: channels :: sizes) :: rest) params blobs = .ok shapes ↔
      ∃ dims roundUp, readRounding params = .ok roundUp ∧
        window.outputDims "Pooling" (batch :: channels :: sizes) roundUp = .ok dims ∧
          shapes = [batch :: channels :: dims] := by
  refine ⟨Window.decided_outputDims (Window.stride_ne_zero hwindow) hrank, fun rest blobs shapes => ?_,
    fun rest blobs shapes => ?_⟩
  · simp only [convolution, firstInput, ok_bind, hwindow, bind_eq_ok_iff, outputChannels_eq_ok_iff]
    constructor
    · rintro ⟨out, hout, dims, hdims, h⟩
      cases h
      exact ⟨dims, out, hdims, hout, rfl⟩
    · rintro ⟨dims, out, hdims, hout, rfl⟩
      exact ⟨out, hout, dims, hdims, rfl⟩
  · simp only [pooling, firstInput, ok_bind, hwindow, bind_eq_ok_iff]
    constructor
    · rintro ⟨roundUp, hround, dims, hdims, h⟩
      cases h
      exact ⟨dims, roundUp, hround, hdims, rfl⟩
    · rintro ⟨dims, roundUp, hround, hdims, rfl⟩
      exact ⟨roundUp, hround, dims, hdims, rfl⟩

/-- A window of one point. -/
def pointWindow : Window :=
  ⟨[⟨1, 1, 0, 0, 1⟩], .explicit⟩

/-- The widest input has room for one point less than a word has values. -/
theorem pointWindow_exact :
    Window.ofParams (Dictionary.empty.insert "kernel" "1") = .ok pointWindow ∧
    (∃ dims, pointWindow.outputDims "Convolution" [1, 3, 18446744073709551615] false = .ok dims ∧
      pointWindow.Exact false [18446744073709551615] dims) ∧
    ∃ dims, convolution [[1, 3, 18446744073709551615], [8, 3]] (Dictionary.empty.insert "kernel" "1")
      .empty = .ok [1 :: 8 :: dims] := by
  have hwindow : Window.ofParams (Dictionary.empty.insert "kernel" "1") = .ok pointWindow := by
    decide +kernel
  obtain ⟨hdecided, hconvolution, -⟩ := @window_exact _ _ hwindow 1 3 [18446744073709551615] rfl
  have hfits : pointWindow.faults [18446744073709551615] = [] := by decide +kernel
  have hdims := hdecided "Convolution" false
  rw [hfits] at hdims
  obtain ⟨dims, houtput, hexact⟩ := hdims.exists_ok
  have hweights : GivesChannels (Dictionary.empty.insert "kernel" "1") [[8, 3]] 8 :=
    .inr ⟨by decide +kernel, [8, 3], rfl, rfl⟩
  exact ⟨hwindow, ⟨dims, houtput, hexact⟩, dims,
    (hconvolution [[8, 3]] .empty _).2 ⟨dims, 8, houtput, hweights, rfl⟩⟩

end ShapeFlow.Rule
