import ShapeFlow.Shape
import ShapeFlow.Binary.Single

/-!
Constant data: dimensions with as many values as their product. The product of the dimensions that
are not zero is bounded, also where the tensor holds no value at all.
-/

namespace ShapeFlow

open Binary

namespace Shape

def volume (shape : Shape) : Nat :=
  (shape.map UInt64.toNat).foldr (· * ·) 1

/-- The number of elements if every empty dimension is left out. -/
def extent (shape : Shape) : Nat :=
  volume (shape.filter (· ≠ 0))

end Shape

def maxExtent : Nat := 0x7fffffffffffffff

structure Tensor where
  dims : Shape
  values : List Single
  length_eq : values.length = dims.volume
  extent_le : dims.extent ≤ maxExtent
  deriving DecidableEq

/-- Why dimensions and values do not make a tensor. -/
inductive TensorDefect where
  | tooLarge
  | tooFewValues
  | tooManyValues
  deriving DecidableEq

def TensorDefect.text : TensorDefect → String
  | .tooLarge => "ShapeError/Overflow: arithmetic overflow"
  | .tooFewValues => "ShapeError/OutOfBounds: out of bounds indexing"
  | .tooManyValues => "ShapeError/IncompatibleShape: incompatible shapes"

namespace Tensor

def ofValues (dims : Shape) (values : List Single) : Except TensorDefect Tensor :=
  if hextent : dims.extent ≤ maxExtent then
    if values.length < dims.volume then .error .tooFewValues
    else if hlength : values.length = dims.volume then .ok ⟨dims, values, hlength, hextent⟩
    else .error .tooManyValues
  else .error .tooLarge

def zeros? (dims : Shape) : Option Tensor :=
  if hextent : dims.extent ≤ maxExtent then
    some ⟨dims, List.replicate dims.volume .zero, List.length_replicate, hextent⟩
  else none

/-- The same dimensions and numerically equal values. -/
def agrees (a b : Tensor) : Bool :=
  a.dims == b.dims && (a.values.zip b.values).all fun pair => pair.1.agrees pair.2

end Tensor

end ShapeFlow
