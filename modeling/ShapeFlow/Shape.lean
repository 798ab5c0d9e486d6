/-!
Dimensions and shapes. A dimension is a 64-bit word; sums and products that a word cannot hold are
refused instead of wrapping.
-/

namespace ShapeFlow

abbrev Dim := UInt64

/-- A tensor shape, outermost dimension first. -/
abbrev Shape := List Dim

namespace Dim

def ofNat? (value : Nat) : Option Dim :=
  if value < UInt64.size then some (UInt64.ofNat value) else none

theorem toNat_of_ofNat? {value : Nat} {dim : Dim} (h : ofNat? value = some dim) :
    dim.toNat = value := by
  unfold ofNat? at h
  split at h
  · next hlt =>
    cases h
    exact UInt64.toNat_ofNat_of_lt' hlt
  · cases h

theorem ofNat?_eq_none_iff {value : Nat} : ofNat? value = none ↔ UInt64.size ≤ value := by
  unfold ofNat?
  split <;> simp <;> omega

@[simp] theorem ofNat?_toNat (dim : Dim) : ofNat? dim.toNat = some dim := by
  simp [ofNat?, UInt64.toNat_lt_size]

def add? (a b : Dim) : Option Dim :=
  ofNat? (a.toNat + b.toNat)

def mul? (a b : Dim) : Option Dim :=
  ofNat? (a.toNat * b.toNat)

def ceilDiv (a b : Dim) : Dim :=
  if a % b = 0 then a / b else a / b + 1

def text (dim : Dim) : String :=
  String.ofList (Nat.toDigits 10 dim.toNat)

end Dim

namespace Shape

/-- The product of the dimensions, refused as soon as a partial product exceeds a word. -/
def elementCount? (shape : Shape) : Option Dim :=
  shape.foldlM Dim.mul? 1

/-- The dimensions between brackets, separated by a comma and a blank. -/
def text (shape : Shape) : String :=
  "[" ++ String.intercalate ", " (shape.map Dim.text) ++ "]"

end Shape

def shapesText (shapes : List Shape) : String :=
  "[" ++ String.intercalate ", " (shapes.map Shape.text) ++ "]"

end ShapeFlow
