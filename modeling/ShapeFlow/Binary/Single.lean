import ShapeFlow.Binary.Rounding

/-!
Single precision numbers as their 32-bit patterns.
-/

namespace ShapeFlow.Binary

structure Single where
  bits : UInt32
  deriving DecidableEq

namespace Single

def zero : Single := ⟨0⟩

/-- The pattern of a signed magnitude of `binary32`; no magnitude stands for infinity. -/
def ofMagnitude (negative : Bool) (magnitude : Option Magnitude) : Single :=
  let low : Nat := match magnitude with
    | some number => (number.exponent + 149).toNat * 0x800000 + number.mantissa
    | none => 0x7f800000
  ⟨UInt32.ofNat (if negative then 0x80000000 + low else low)⟩

def isNegative (number : Single) : Bool :=
  0x80000000 ≤ number.bits.toNat

def low (number : Single) : Nat :=
  number.bits.toNat % 0x80000000

def magnitude? (number : Single) : Option Magnitude :=
  let field : Nat := number.low / 0x800000
  let fraction : Nat := number.low % 0x800000
  if field = 255 then none
  else if field = 0 then some ⟨fraction, -149⟩
  else some ⟨0x800000 + fraction, (field : Int) - 150⟩

def isNaN (number : Single) : Bool :=
  0x7f800000 < number.low

/-- Numeric equality: the zeros are equal, a NaN equals nothing. -/
def agrees (a b : Single) : Bool :=
  !a.isNaN && !b.isNaN && (a == b || (a.low == 0 && b.low == 0))

end Single

end ShapeFlow.Binary
