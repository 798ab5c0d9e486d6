/-!
Names compared without regard to the case of the ASCII letters. A key remembers how it was spelled,
is equal to every other spelling, and feeds the same bytes to a hasher as every other spelling.
-/

namespace ShapeFlow.Caseless

/-- The name with `A` to `Z` replaced by `a` to `z`; no other character changes. -/
def lower (name : String) : String :=
  String.ofList (name.toList.map Char.toLower)

def eq (a b : String) : Bool :=
  lower a == lower b

structure Key where
  spelling : String

namespace Key

instance : BEq Key := ⟨fun a b => Caseless.eq a.spelling b.spelling⟩

theorem beq_eq (a b : Key) : (a == b) = (lower a.spelling == lower b.spelling) := rfl

instance : EquivBEq Key where
  rfl := by simp [beq_eq]
  symm := by simp +contextual [beq_eq]
  trans := by simp +contextual [beq_eq]

end Key

def lowerByte (byte : UInt8) : UInt8 :=
  if 65 ≤ byte ∧ byte ≤ 90 then byte + 32 else byte

/-- The bytes by which a hasher knows a key: the folded spelling and a byte no text contains. -/
def Key.stream (key : Key) : List UInt8 :=
  key.spelling.toUTF8.data.toList.map lowerByte ++ [0xff]

end ShapeFlow.Caseless
