import ShapeFlow.Shape

/-!
Decimal numerals as they stand in parameters and overrides: an optional sign and at least one ASCII
digit, with a value inside the range asked for.
-/

namespace ShapeFlow.Text

/-- The value of a text of one or more ASCII digits. -/
def natural? (text : List Char) : Option Nat :=
  if !text.isEmpty && text.all Char.isDigit then some (Nat.ofDigitChars 10 text 0) else none

/-- A dimension, which may carry a plus sign. -/
def dim? : List Char → Option Dim
  | '+' :: digits => natural? digits >>= Dim.ofNat?
  | digits => natural? digits >>= Dim.ofNat?

/-- The integer, if 64 bits in two's complement hold it. -/
def ofRange? (value : Int) : Option Int :=
  if -0x8000000000000000 ≤ value ∧ value < 0x8000000000000000 then some value else none

/-- A 64-bit integer, which may carry either sign. -/
def integer? : List Char → Option Int
  | '-' :: digits => natural? digits >>= fun value => ofRange? (-value)
  | '+' :: digits => natural? digits >>= fun value => ofRange? value
  | digits => natural? digits >>= fun value => ofRange? value

def naturalText (value : Nat) : String :=
  String.ofList (Nat.toDigits 10 value)

def integerText (value : Int) : String :=
  if value < 0 then "-" ++ naturalText value.natAbs else naturalText value.natAbs

end ShapeFlow.Text
