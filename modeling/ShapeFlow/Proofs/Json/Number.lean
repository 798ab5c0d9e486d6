import ShapeFlow.Json.Reader
import Mathlib.Data.List.Basic

/-!
Number tokens are read back. The tokens written for dimensions and for single precision numbers
follow the grammar of numbers, and the reader takes a token that does and stops behind it.
-/

namespace ShapeFlow

/-- The token follows the grammar of numbers. -/
structure NumberToken.Valid (token : NumberToken) : Prop where
  whole_ne_nil : token.whole ≠ []
  whole_digits : ∀ c ∈ token.whole, c.isDigit = true
  no_leading_zero : token.whole.head? = some '0' → token.whole.length = 1
  fraction_digits : ∀ c ∈ token.fraction, c.isDigit = true
  exponent_digits : ∀ {negative : Bool} {digits : List Char},
    token.exponent = some (negative, digits) → digits ≠ [] ∧ ∀ c ∈ digits, c.isDigit = true

namespace Json

/-- What the printer puts behind a value. -/
def Ends (rest : List Char) : Prop :=
  ∀ c ∈ rest.head?, c = ',' ∨ c = '\n'

/-! ### Reading a token -/

section

variable {digits rest : List Char}

theorem Ends.not_digit (h : Ends rest) : ∀ c ∈ rest.head?, c.isDigit = false := by
  intro c hc
  rcases h c hc with rfl | rfl <;> rfl

theorem readDigits_append (hne : digits ≠ []) (hdigits : ∀ c ∈ digits, c.isDigit = true)
    (hrest : ∀ c ∈ rest.head?, c.isDigit = false) :
    readDigits (digits ++ rest) = some (digits, rest) := by
  have hstop : rest.takeWhile Char.isDigit = [] ∧ rest.dropWhile Char.isDigit = rest := by
    cases rest with
    | nil => exact ⟨rfl, rfl⟩
    | cons c rest =>
      have hc : c.isDigit = false := hrest c rfl
      simp [hc]
  have htake : (digits ++ rest).takeWhile Char.isDigit = digits := by
    rw [List.takeWhile_append_of_pos hdigits, hstop.1, List.append_nil]
  have hdrop : (digits ++ rest).dropWhile Char.isDigit = rest := by
    rw [List.dropWhile_append_of_pos hdigits, hstop.2]
  simp only [readDigits, htake, hdrop]
  simp [hne]

def fractionText (fraction : List Char) : List Char :=
  if fraction.isEmpty then [] else '.' :: fraction

def exponentText : Option (Bool × List Char) → List Char
  | none => []
  | some (negative, digits) => 'e' :: (if negative then '-' else '+') :: digits

theorem not_digit_exponentText (hrest : Ends rest) (exponent : Option (Bool × List Char)) :
    ∀ c ∈ (exponentText exponent ++ rest).head?, c.isDigit = false ∧ c ≠ '.' := by
  intro c hc
  obtain _ | ⟨negative, digits⟩ := exponent
  · rcases hrest c hc with rfl | rfl <;> exact ⟨rfl, by decide⟩
  · cases hc
    exact ⟨rfl, by decide⟩

theorem not_digit_fractionText (hrest : Ends rest) (fraction : List Char)
    (exponent : Option (Bool × List Char)) :
    ∀ c ∈ (fractionText fraction ++ (exponentText exponent ++ rest)).head?, c.isDigit = false := by
  intro c hc
  cases fraction with
  | nil => exact (not_digit_exponentText hrest exponent c hc).1
  | cons digit fraction =>
    cases hc
    rfl

theorem readExponent_append (hrest : Ends rest) {exponent : Option (Bool × List Char)}
    (h : ∀ {negative : Bool} {digits : List Char},
      exponent = some (negative, digits) → digits ≠ [] ∧ ∀ c ∈ digits, c.isDigit = true) :
    readExponent (exponentText exponent ++ rest) = some (exponent, rest) := by
  obtain _ | ⟨negative, digits⟩ := exponent
  · cases rest with
    | nil => rfl
    | cons c rest => rcases hrest c rfl with rfl | rfl <;> rfl
  · obtain ⟨hne, hdigits⟩ := h rfl
    have hread := readDigits_append hne hdigits hrest.not_digit
    cases negative with
    | false => simp [exponentText, readExponent, readExponentDigits, hread]
    | true => simp [exponentText, readExponent, readExponentDigits, hread]

theorem readFraction_append {fraction : List Char} (h : ∀ c ∈ fraction, c.isDigit = true)
    (hrest : ∀ c ∈ rest.head?, c.isDigit = false ∧ c ≠ '.') :
    readFraction (fractionText fraction ++ rest) = some (fraction, rest) := by
  cases fraction with
  | nil =>
    cases rest with
    | nil => rfl
    | cons c rest =>
      have hc := (hrest c rfl).2
      change readFraction (c :: rest) = _
      unfold readFraction
      split
      · next heq =>
        cases heq
        exact absurd rfl hc
      · rfl
  | cons digit fraction =>
    exact readDigits_append (List.cons_ne_nil _ _) h fun c hc => (hrest c hc).1

theorem readMagnitude_append {token : NumberToken} (h : token.Valid) (hrest : Ends rest) :
    readMagnitude token.negative (token.whole ++
      (fractionText token.fraction ++ (exponentText token.exponent ++ rest))) =
        some (token, rest) := by
  have hwhole : readWhole (token.whole ++
      (fractionText token.fraction ++ (exponentText token.exponent ++ rest))) =
        some (token.whole, fractionText token.fraction ++ (exponentText token.exponent ++ rest)) := by
    rw [readWhole, readDigits_append h.whole_ne_nil h.whole_digits
      (not_digit_fractionText hrest token.fraction token.exponent)]
    simpa using h.no_leading_zero
  rw [readMagnitude, hwhole]
  simp only [Option.bind_eq_bind, Option.bind_some]
  rw [readFraction_append h.fraction_digits (not_digit_exponentText hrest token.exponent)]
  simp only [Option.bind_some]
  rw [readExponent_append hrest h.exponent_digits]
  rfl

theorem readNumber_append {token : NumberToken} (h : token.Valid) (hrest : Ends rest) :
    readNumber (token.text ++ rest) = some (token, rest) := by
  have htext : token.text ++ rest = (if token.negative then ['-'] else []) ++ (token.whole ++
      (fractionText token.fraction ++ (exponentText token.exponent ++ rest))) := by
    simp only [NumberToken.text, fractionText, List.append_assoc]
    rfl
  have hread := readMagnitude_append h hrest
  rw [htext]
  cases hsign : token.negative with
  | true =>
    rw [hsign] at hread
    exact hread
  | false =>
    rw [hsign] at hread
    obtain ⟨digit, digits, hwhole⟩ := List.exists_cons_of_ne_nil h.whole_ne_nil
    have hdigit : digit.isDigit = true := h.whole_digits digit (by simp [hwhole])
    rw [hwhole] at hread ⊢
    change readNumber (digit :: _) = _
    unfold readNumber
    split
    · next heq =>
      cases heq
      cases hdigit
    · exact hread

end

end Json

/-! ### The tokens that are written -/

open Binary

theorem head?_toDigits {value : Nat} (h : 0 < value) : (Nat.toDigits 10 value).head? ≠ some '0' := by
  induction value using Nat.strongRecOn with
  | ind value ih =>
    by_cases hlt : value < 10
    · rw [Nat.toDigits_of_lt_base hlt]
      have hall : ∀ digit < 10, 0 < digit → [Nat.digitChar digit].head? ≠ some '0' := by decide
      exact hall value hlt h
    · have hle : 10 ≤ value := Nat.not_lt.1 hlt
      have hrest := ih (value / 10) (by omega) (by omega)
      have hne : Nat.toDigits 10 (value / 10) ≠ [] := Nat.toDigits_ne_nil
      rw [Nat.toDigits_of_base_le (by omega) hle]
      cases hdigits : Nat.toDigits 10 (value / 10) with
      | nil => exact absurd hdigits hne
      | cons digit digits =>
        rw [hdigits] at hrest
        exact hrest

namespace NumberToken

theorem valid_ofNat (value : Nat) : (ofNat value).Valid where
  whole_ne_nil := Nat.toDigits_ne_nil
  whole_digits := fun _ hc => Nat.isDigit_of_mem_toDigits (by omega) (by omega) hc
  no_leading_zero := by
    intro hzero
    obtain rfl | hpos := Nat.eq_zero_or_pos value
    · rfl
    · exact absurd hzero (head?_toDigits hpos)
  fraction_digits := by simp [ofNat]
  exponent_digits := by simp [ofNat]

theorem dim?_ofNat {value : Nat} (h : value < UInt64.size) :
    (ofNat value).dim? = some (UInt64.ofNat value) := by
  have hvalue : Nat.ofDigitChars 10 (Nat.toDigits 10 value) 0 = value := by simp
  simp [dim?, isInteger, ofNat, Dim.ofNat?, hvalue, h]

/-- A decimal that is not zero is written without superfluous zeros. -/
theorem valid_ofDecimal (layout : Layout) (negative : Bool) {decimal : Decimal}
    (h : 0 < decimal.digits) : (ofDecimal layout negative decimal).Valid := by
  have hdigits : ∀ value, ∀ c ∈ Nat.toDigits 10 value, c.isDigit = true :=
    fun _ _ hc => Nat.isDigit_of_mem_toDigits (by omega) (by omega) hc
  have hzeros : ∀ count, ∀ c ∈ List.replicate count '0', c.isDigit = true := by
    intro count c hc
    rw [List.eq_of_mem_replicate hc]
    rfl
  have hne : Nat.toDigits 10 decimal.digits ≠ [] := Nat.toDigits_ne_nil
  obtain ⟨first, rest, hsplit⟩ := List.exists_cons_of_ne_nil hne
  have hall : ∀ c ∈ first :: rest, c.isDigit = true := hsplit ▸ hdigits decimal.digits
  have hfirst : first ≠ '0' := by
    have hhead := head?_toDigits h
    rw [hsplit] at hhead
    simpa using hhead
  simp only [ofDecimal, hsplit]
  split
  · next hrange =>
    split
    · refine ⟨by simp, by simp, by simp, fun c hc => ?_, by simp⟩
      rcases List.mem_append.1 hc with hc | hc
      · exact hzeros _ c hc
      · exact hall c hc
    · next hpos =>
      obtain ⟨count, hcount⟩ : ∃ count : Nat,
          (decimal.exponent + ((first :: rest).length : Int) - 1 + 1).toNat = count + 1 :=
        ⟨_, (Nat.succ_pred_eq_of_pos (by omega)).symm⟩
      rw [hcount, List.take_succ_cons, List.drop_succ_cons]
      refine ⟨by simp, fun c hc => ?_, by simp [hfirst], fun c hc => ?_, by simp⟩
      · rcases List.mem_append.1 hc with hc | hc
        · rcases List.mem_cons.1 hc with rfl | hc
          · exact hall c List.mem_cons_self
          · exact hall c (List.mem_cons_of_mem _ (List.mem_of_mem_take hc))
        · exact hzeros _ c hc
      · dsimp only at hc
        split at hc
        · rw [List.mem_singleton.1 hc]
          rfl
        · exact hall c (List.mem_cons_of_mem _ (List.mem_of_mem_drop hc))
  · refine ⟨by simp, fun c hc => ?_, by simp, fun c hc => ?_, fun heq => ?_⟩
    · exact hall c (List.mem_of_mem_take hc)
    · exact hall c (List.mem_of_mem_drop hc)
    · cases heq
      exact ⟨Nat.toDigits_ne_nil, hdigits _⟩

theorem dropZeros_pos {fuel : Nat} {decimal : Decimal} (h : 0 < decimal.digits) :
    0 < (dropZeros fuel decimal).digits := by
  induction fuel generalizing decimal with
  | zero => exact h
  | succ fuel ih =>
    unfold dropZeros
    split
    · exact ih (by dsimp only; omega)
    · exact h

end NumberToken

namespace Binary

theorem Interval.contains_neighbour? {interval : Interval} {unit digits : Nat}
    (h : interval.neighbour? unit = some digits) : interval.contains (digits * unit) = true := by
  simp only [neighbour?] at h
  split at h
  · next hbelow habove =>
    split at h
    · cases h
      exact hbelow
    · split at h
      · cases h
        exact habove
      · split at h
        · cases h
          exact hbelow
        · cases h
          exact habove
  · next hbelow _ =>
    cases h
    exact hbelow
  · next habove =>
    cases h
    exact habove
  · cases h

theorem Interval.bounds_of_contains {interval : Interval} {value : Nat}
    (h : interval.contains value = true) : interval.low ≤ value ∧ value ≤ interval.high := by
  unfold contains at h
  split at h
  · simpa using h
  · have hinside : interval.low < value ∧ value < interval.high := by simpa using h
    omega

/-- A multiple inside an interval of positive numbers is positive. -/
theorem Interval.neighbour?_pos {interval : Interval} (hlow : 0 < interval.low) {unit digits : Nat}
    (h : interval.neighbour? unit = some digits) : 0 < digits := by
  have hbounds := bounds_of_contains (contains_neighbour? h)
  refine Nat.pos_of_ne_zero fun hzero => ?_
  rw [hzero, Nat.zero_mul] at hbounds
  omega

theorem Format.decimalOfLength?_pos {format : Format} {number : Magnitude}
    (hpos : 0 < number.mantissa) {leading : Int} {count : Nat} {decimal : Decimal}
    (h : format.decimalOfLength? number leading count = some decimal) : 0 < decimal.digits := by
  obtain ⟨digits, hdigits, rfl⟩ := Option.map_eq_some_iff.1 h
  refine Interval.neighbour?_pos ?_ hdigits
  have hlow : 0 < (format.interval number).low := by
    dsimp only [interval]
    split <;> omega
  have hpow : ∀ base exponent : Nat, 0 < base → 0 < Nat.pow base exponent :=
    fun _ _ hbase => Nat.pow_pos hbase
  exact Nat.mul_pos hlow (Nat.mul_pos (hpow 2 _ (by omega)) (hpow 10 _ (by omega)))

theorem Format.shortest_pos (format : Format) {number : Magnitude} (hpos : 0 < number.mantissa) :
    0 < (format.shortest number).digits ∨ format.shortest number = ⟨0, 0⟩ := by
  unfold shortest
  dsimp only
  cases hfound : (List.range 17).findSome? fun count => format.decimalOfLength? number
      (floorLog10 number.ratio.1 number.ratio.2) (count + 1) with
  | none => exact .inr rfl
  | some decimal =>
    obtain ⟨count, -, hdecimal⟩ := List.exists_of_findSome?_eq_some hfound
    exact .inl (decimalOfLength?_pos hpos hdecimal)

end Binary

/-- Whatever is written for a single precision number is a number. -/
theorem NumberToken.valid_ofSingle? {number : Single} {token : NumberToken}
    (h : ofSingle? number = some token) : token.Valid := by
  obtain ⟨magnitude, -, rfl⟩ := Option.map_eq_some_iff.1 h
  split
  · constructor <;> simp
  · next hne =>
    rcases binary32.shortest_pos (Nat.pos_of_ne_zero hne) with hpos | hzero
    · exact valid_ofDecimal _ _ (dropZeros_pos hpos)
    · rw [hzero]
      have hdrop : dropZeros 17 ⟨0, 0⟩ = ⟨0, 17⟩ := by decide
      have htoken : ofDecimal layout number.isNegative ⟨0, 17⟩ =
          ⟨number.isNegative, ['0'], [], some (false, ['1', '7'])⟩ := rfl
      rw [hdrop, htoken]
      constructor <;> simp

end ShapeFlow
