import ShapeFlow.Shape
import ShapeFlow.Binary.Single
import ShapeFlow.Binary.Shortest

/-!
Number tokens of JSON: what they mean as a dimension or as a single precision number, and the tokens
written for either.
-/

namespace ShapeFlow

open Binary

/-- The parts of a number token. A token without a fraction has an empty one; the exponent is a sign
and its digits. -/
structure NumberToken where
  negative : Bool
  whole : List Char
  fraction : List Char
  exponent : Option (Bool × List Char)
  deriving DecidableEq

namespace NumberToken

def isInteger (token : NumberToken) : Bool :=
  token.fraction.isEmpty && token.exponent.isNone

def dim? (token : NumberToken) : Option Dim :=
  if token.isInteger && !token.negative then Dim.ofNat? (Nat.ofDigitChars 10 token.whole 0)
  else none

/-- Appends digits to a number as long as it fits into a word; the rest is left over. -/
def takeWord (value : Nat) : List Char → Nat × List Char
  | [] => (value, [])
  | digit :: rest =>
    let next := Nat.ofDigitChars 10 [digit] value
    if next < UInt64.size then takeWord next rest else (value, digit :: rest)

/-- A word and an exponent of ten for the token. Digits of the whole part that no longer fit into
the word count as zeros, those of the fraction are dropped. -/
def significand (token : NumberToken) : Nat × Int :=
  let (whole, surplus) := takeWord 0 token.whole
  let (value, dropped) := takeWord whole token.fraction
  let exponent : Int := match token.exponent with
    | none => 0
    | some (negative, digits) =>
      let size : Int := Nat.ofDigitChars 10 digits 0
      if negative then -size else size
  (value, surplus.length - (token.fraction.length - dropped.length : Nat) + exponent)

/-- The largest power of ten by which a number is scaled in one step. -/
def maxStep : Nat := 308

/-- `value / 10 ^ places` in double precision, by steps of at most `maxStep` places that are rounded
one by one; three steps lead below the smallest number. -/
def scaleDown : Nat → Magnitude → Nat → Option Magnitude
  | 0, value, _ => some value
  | fuel + 1, value, places =>
    if places ≤ maxStep then
      (binary64.round? (Nat.pow 10 places) 1).bind (binary64.div? value)
    else if value.mantissa = 0 then some value
    else do
      let power ← binary64.round? (Nat.pow 10 maxStep) 1
      scaleDown fuel (← binary64.div? value power) (places - maxStep)

/-- The double precision magnitude of a token; none if it lies out of range. -/
def double? (token : NumberToken) : Option Magnitude := do
  let (value, exponent) := token.significand
  let value ← binary64.round? value 1
  if 0 ≤ exponent then
    if exponent ≤ maxStep then
      (binary64.round? (Nat.pow 10 exponent.toNat) 1).bind (binary64.mul? value)
    else if value.mantissa = 0 then some value
    else none
  else scaleDown 3 value (-exponent).toNat

/-- The integer tokens that fit into 64 bits are taken exactly. -/
def exactWord? (token : NumberToken) : Option Nat :=
  let value := Nat.ofDigitChars 10 token.whole 0
  if !token.isInteger then none
  else if token.negative then
    if 0 < value ∧ value ≤ 0x8000000000000000 then some value else none
  else if value < UInt64.size then some value else none

/-- The single precision number a token denotes: 64-bit integers are rounded once, all others first
to double precision. Beyond single precision lies infinity, beyond double precision nothing. -/
def single? (token : NumberToken) : Option Single :=
  match token.exactWord? with
  | some value => some (.ofMagnitude token.negative (binary32.round? value 1))
  | none => token.double?.map fun magnitude =>
      .ofMagnitude token.negative (binary32.round? magnitude.ratio.1 magnitude.ratio.2)

def ofNat (value : Nat) : NumberToken :=
  ⟨false, Nat.toDigits 10 value, [], none⟩

/-- How a decimal is written: positional from `minPositional` to `maxPositional`, the exponents of
its leading digit, and with an exponent elsewhere. -/
structure Layout where
  minPositional : Int
  maxPositional : Int

/-- Positional from a millionth to below ten million million. -/
def layout : Layout := ⟨-6, 12⟩

/-- The token of a positive decimal without trailing zeros. -/
def ofDecimal (layout : Layout) (negative : Bool) (decimal : Decimal) : NumberToken :=
  let digits := Nat.toDigits 10 decimal.digits
  let leading : Int := decimal.exponent + digits.length - 1
  if layout.minPositional ≤ leading ∧ leading ≤ layout.maxPositional then
    if leading < 0 then
      ⟨negative, ['0'], List.replicate (-leading - 1).toNat '0' ++ digits, none⟩
    else
      let whole := digits.take (leading + 1).toNat
      let fraction := digits.drop (leading + 1).toNat
      ⟨negative, whole ++ List.replicate ((leading + 1).toNat - whole.length) '0',
        if fraction.isEmpty then ['0'] else fraction, none⟩
  else
    ⟨negative, digits.take 1, digits.drop 1, some (leading < 0, Nat.toDigits 10 leading.natAbs)⟩

def dropZeros : Nat → Decimal → Decimal
  | 0, decimal => decimal
  | fuel + 1, decimal =>
    if decimal.digits % 10 = 0 then dropZeros fuel ⟨decimal.digits / 10, decimal.exponent + 1⟩
    else decimal

def ofSingle? (number : Single) : Option NumberToken :=
  number.magnitude?.map fun magnitude =>
    if magnitude.mantissa = 0 then ⟨number.isNegative, ['0'], ['0'], none⟩
    else ofDecimal layout number.isNegative (dropZeros 17 (binary32.shortest magnitude))

/-- The characters of a token; the sign of an exponent is always written. -/
def text (token : NumberToken) : List Char :=
  (if token.negative then ['-'] else []) ++ token.whole ++
    (if token.fraction.isEmpty then [] else '.' :: token.fraction) ++
    match token.exponent with
    | none => []
    | some (negative, digits) => 'e' :: (if negative then '-' else '+') :: digits

end NumberToken

end ShapeFlow
