import ShapeFlow.Proofs.Binary.Rounding
import ShapeFlow.Proofs.Json.Number

/-!
The tokens written for finite numbers of single precision are read again. What is read need not be the
same number, since a token is scaled in double precision; but a token whose power of ten is small is in
range, and the leading digit of a finite number stands below the fortieth place.
-/

namespace ShapeFlow

open Binary

/-! ### Tokens in range -/

namespace NumberToken

theorem takeWord_lt {value : Nat} (h : value < UInt64.size) (digits : List Char) :
    (takeWord value digits).1 < UInt64.size := by
  induction digits generalizing value with
  | nil => exact h
  | cons digit rest ih =>
    unfold takeWord
    dsimp only
    split
    · next hnext => exact ih hnext
    · exact h

theorem length_takeWord_le (value : Nat) (digits : List Char) :
    (takeWord value digits).2.length ≤ digits.length := by
  induction digits generalizing value with
  | nil => exact Nat.le_refl 0
  | cons digit rest ih =>
    unfold takeWord
    dsimp only
    split
    · exact (ih _).trans (Nat.le_succ _)
    · exact Nat.le_refl _

/-- The written exponent of a token. -/
def power (token : NumberToken) : Int :=
  match token.exponent with
  | none => 0
  | some (negative, digits) =>
    if negative then -(Nat.ofDigitChars 10 digits 0 : Int) else Nat.ofDigitChars 10 digits 0

theorem significand_lt (token : NumberToken) : token.significand.1 < UInt64.size :=
  takeWord_lt (takeWord_lt (by decide) _) _

/-- The digits that do not fit into a word are digits of the whole part. -/
theorem significand_exponent_le (token : NumberToken) :
    token.significand.2 ≤ token.whole.length + token.power := by
  have hsurplus := length_takeWord_le 0 token.whole
  unfold significand power
  dsimp only
  rcases token.exponent with _ | ⟨negative, digits⟩ <;> dsimp only <;> omega

theorem exists_round?_power {places : Nat} (h : places ≤ maxStep) :
    ∃ power, binary64.round? (Nat.pow 10 places) 1 = some power ∧ 0 < power.mantissa ∧
      1 ≤ power.value := by
  have hall : (List.range (maxStep + 1)).all (fun places =>
      (binary64.round? (Nat.pow 10 places) 1).any fun power => power.ratio.2 ≤ power.ratio.1) =
        true := by
    decide +kernel
  have hplace := List.all_eq_true.1 hall places (List.mem_range.2 (Nat.lt_succ_of_le h))
  obtain ⟨power, hpower, hratio⟩ := (Option.any_eq_true _ _).1 hplace
  have hle : power.ratio.2 ≤ power.ratio.1 := of_decide_eq_true hratio
  have hpos : 0 < power.ratio.1 := power.ratio_pos.trans_le hle
  refine ⟨power, hpower, Nat.pos_of_mul_pos_right hpos, ?_⟩
  rw [← power.ratio_eq, le_div_iff₀ (by exact_mod_cast power.ratio_pos), one_mul]
  exact_mod_cast hle

theorem exists_scaleDown (fuel : Nat) {value : Magnitude} (h : value.value ≤ 2 ^ 64) (places : Nat) :
    ∃ result, scaleDown fuel value places = some result := by
  have hdiv : ∀ {value power : Magnitude}, value.value ≤ 2 ^ 64 → 0 < power.mantissa →
      1 ≤ power.value → ∃ number, binary64.div? value power = some number ∧ number.value ≤ 2 ^ 64 := by
    intro value power hvalue hmantissa hpower
    apply exists_div? hmantissa (by omega)
    apply (div_le_iff₀ (by linarith)).2
    calc value.value
      _ ≤ 2 ^ 64 := hvalue
      _ ≤ 2 ^ 64 * power.value := le_mul_of_one_le_right (by norm_num) hpower
  induction fuel generalizing value places with
  | zero => exact ⟨value, rfl⟩
  | succ fuel ih =>
    unfold scaleDown
    split
    · next hplaces =>
      obtain ⟨power, hround, hmantissa, hpower⟩ := exists_round?_power hplaces
      obtain ⟨number, hnumber, -⟩ := hdiv h hmantissa hpower
      exact ⟨number, by rw [hround, Option.bind_some, hnumber]⟩
    · split
      · exact ⟨value, rfl⟩
      · obtain ⟨power, hround, hmantissa, hpower⟩ := exists_round?_power (Nat.le_refl maxStep)
        obtain ⟨number, hnumber, hvalue⟩ := hdiv h hmantissa hpower
        obtain ⟨result, hresult⟩ := ih hvalue (places - maxStep)
        exact ⟨result, by
          simp only [Option.bind_eq_bind, hround, hnumber, hresult, Option.bind_some]⟩

/-- A token is in range unless its power of ten is large. -/
theorem exists_double? {token : NumberToken} (h : token.significand.2 ≤ 64) :
    ∃ magnitude, token.double? = some magnitude := by
  have hword : (token.significand.1 : ℚ) / (1 : ℕ) ≤ 2 ^ 64 := by
    rw [Nat.cast_one, div_one]
    exact_mod_cast (token.significand_lt).le
  obtain ⟨value, hvalue, hle⟩ := exists_round?_binary64 (by omega) (by omega) hword
  unfold double?
  simp only [Option.bind_eq_bind, hvalue, Option.bind_some]
  split
  · next hpos =>
    obtain ⟨places, hplaces⟩ : ∃ places : ℕ, token.significand.2 = places :=
      ⟨_, (Int.toNat_of_nonneg hpos).symm⟩
    have hpower : ((Nat.pow 10 places : ℕ) : ℚ) / (1 : ℕ) ≤ 2 ^ 256 := by
      have hplaces' : places ≤ 64 := by omega
      rw [Nat.cast_one, div_one, Nat.pow_eq, Nat.cast_pow, Nat.cast_ofNat]
      calc (10 : ℚ) ^ places
        _ ≤ 16 ^ places := by gcongr; norm_num
        _ ≤ 16 ^ 64 := pow_le_pow_right₀ (by norm_num) hplaces'
        _ = 2 ^ 256 := by norm_num
    obtain ⟨power, hround, hpowerLe⟩ := exists_round?_binary64 (by omega) (by omega) hpower
    have hproduct : value.value * power.value ≤ 2 ^ 320 := by
      have hnonneg : 0 ≤ power.value := by
        unfold Magnitude.value
        positivity
      calc value.value * power.value
        _ ≤ 2 ^ 64 * 2 ^ 256 := mul_le_mul hle hpowerLe hnonneg (by norm_num)
        _ = 2 ^ 320 := (pow_add 2 64 256).symm
    obtain ⟨product, hmul, -⟩ := exists_mul? (by omega) hproduct
    have hstep : token.significand.2 ≤ maxStep := by
      unfold maxStep
      omega
    rw [if_pos hstep, hplaces, Int.toNat_natCast, hround, Option.bind_some]
    exact ⟨product, hmul⟩
  · exact exists_scaleDown 3 hle _

theorem exists_single? {token : NumberToken} (h : token.whole.length + token.power ≤ 64) :
    ∃ number, token.single? = some number := by
  obtain ⟨magnitude, hmagnitude⟩ := exists_double? (token.significand_exponent_le.trans h)
  unfold single?
  split
  · exact ⟨_, rfl⟩
  · exact ⟨_, by rw [hmagnitude, Option.map_some]⟩

end NumberToken

/-! ### The leading digit -/

namespace Binary

namespace Decimal

def value (decimal : Decimal) : ℚ :=
  decimal.digits * 10 ^ decimal.exponent

/-- The place of the leading digit. -/
def leading (decimal : Decimal) : ℤ :=
  decimal.exponent + (Nat.toDigits 10 decimal.digits).length - 1

theorem pow_leading_le {decimal : Decimal} (h : 0 < decimal.digits) :
    (10 : ℚ) ^ decimal.leading ≤ decimal.value := by
  obtain ⟨count, hcount⟩ : ∃ count, (Nat.toDigits 10 decimal.digits).length = count + 1 :=
    ⟨_, (Nat.succ_pred_eq_of_pos Nat.length_toDigits_pos).symm⟩
  have hdigits : 10 ^ count ≤ decimal.digits := by
    by_cases hzero : count = 0
    · rw [hzero]
      exact h
    · by_contra hlt
      have hlength := (Nat.length_toDigits_le_iff (by omega) (Nat.pos_of_ne_zero hzero)).2
        (Nat.not_le.1 hlt)
      omega
  have hleading : decimal.leading = count + decimal.exponent := by
    rw [leading, hcount]
    push_cast
    ring
  rw [hleading, value, zpow_add₀ (by norm_num), zpow_natCast]
  gcongr
  exact_mod_cast hdigits

theorem leading_lt {decimal : Decimal} (h : 0 < decimal.digits) {places : ℤ}
    (hvalue : decimal.value < 10 ^ places) : decimal.leading < places :=
  (zpow_lt_zpow_iff_right₀ (by norm_num : (1 : ℚ) < 10)).1 ((pow_leading_le h).trans_lt hvalue)

end Decimal

/-- The digits that stand for a number lie in its interval. -/
theorem Format.value_decimalOfLength?_le {format : Format} {number : Magnitude} {leading : ℤ}
    {count : ℕ} {decimal : Decimal} (h : format.decimalOfLength? number leading count = some decimal) :
    decimal.value ≤ (4 * number.mantissa + 2 : ℕ) * 2 ^ (number.exponent - 2) := by
  obtain ⟨digits, hdigits, rfl⟩ := Option.map_eq_some_iff.1 h
  have hhigh := (Interval.bounds_of_contains (Interval.contains_neighbour? hdigits)).2
  generalize leading - (count - 1 : ℕ) = place at hhigh ⊢
  generalize number.exponent - 2 = quarter at hhigh ⊢
  have hcross : digits * 10 ^ place.toNat * 2 ^ (-quarter).toNat ≤
      (4 * number.mantissa + 2) * 2 ^ quarter.toNat * 10 ^ (-place).toNat :=
    calc digits * 10 ^ place.toNat * 2 ^ (-quarter).toNat
      _ = digits * (2 ^ (-quarter).toNat * 10 ^ place.toNat) := by ring
      _ ≤ (4 * number.mantissa + 2) * (2 ^ quarter.toNat * 10 ^ (-place).toNat) := hhigh
      _ = (4 * number.mantissa + 2) * 2 ^ quarter.toNat * 10 ^ (-place).toNat := by ring
  dsimp only [Decimal.value]
  rw [← pow_toNat_div 10 place, ← pow_toNat_div 2 quarter, ← mul_div_assoc, ← mul_div_assoc,
    div_le_div_iff₀ (by positivity) (by positivity)]
  exact_mod_cast hcross

theorem Format.value_shortest_le {format : Format} {number : Magnitude} :
    (format.shortest number).value ≤ (4 * number.mantissa + 2 : ℕ) * 2 ^ (number.exponent - 2) := by
  unfold shortest
  dsimp only
  cases hfound : (List.range 17).findSome? fun count => format.decimalOfLength? number
      (floorLog10 number.ratio.1 number.ratio.2) (count + 1) with
  | none =>
    simp only [Option.getD_none, Decimal.value, Nat.cast_zero, zero_mul]
    positivity
  | some decimal =>
    obtain ⟨count, -, hdecimal⟩ := List.exists_of_findSome?_eq_some hfound
    exact value_decimalOfLength?_le hdecimal

namespace Single

theorem bounds_of_magnitude? {number : Single} {magnitude : Magnitude}
    (h : number.magnitude? = some magnitude) :
    magnitude.mantissa < 2 ^ 24 ∧ magnitude.exponent ≤ 104 := by
  have hlow : number.low < 0x80000000 := Nat.mod_lt _ (by omega)
  unfold magnitude? at h
  dsimp only at h
  split at h
  · cases h
  · split at h
    · cases h
      dsimp only
      omega
    · cases h
      dsimp only
      omega

end Single

theorem value_shortest_lt {number : Single} {magnitude : Magnitude}
    (h : number.magnitude? = some magnitude) : (binary32.shortest magnitude).value < 10 ^ (39 : ℤ) := by
  obtain ⟨hmantissa, hexponent⟩ := Single.bounds_of_magnitude? h
  have hhigh : ((4 * magnitude.mantissa + 2 : ℕ) : ℚ) ≤ 2 ^ 26 := by
    exact_mod_cast (by omega : 4 * magnitude.mantissa + 2 ≤ 2 ^ 26)
  calc (binary32.shortest magnitude).value
    _ ≤ (4 * magnitude.mantissa + 2 : ℕ) * 2 ^ (magnitude.exponent - 2) := Format.value_shortest_le
    _ ≤ 2 ^ 26 * 2 ^ (102 : ℤ) := by
      gcongr
      · norm_num
      · omega
    _ < 10 ^ (39 : ℤ) := by norm_num

end Binary

/-! ### Tokens of finite numbers -/

namespace NumberToken

theorem value_dropZeros (fuel : ℕ) (decimal : Decimal) :
    (dropZeros fuel decimal).value = decimal.value := by
  induction fuel generalizing decimal with
  | zero => rfl
  | succ fuel ih =>
    unfold dropZeros
    split
    · next hzero =>
      have hdigits : decimal.digits = decimal.digits / 10 * 10 := by omega
      rw [ih, Decimal.value, Decimal.value, zpow_add_one₀ (by norm_num)]
      conv_rhs => rw [hdigits]
      push_cast
      ring
    · rfl

/-- Neither the whole part nor the exponent of a written decimal goes far beyond its leading digit. -/
theorem length_add_power_ofDecimal_le (negative : Bool) {decimal : Decimal}
    (h : decimal.leading < 39) :
    (ofDecimal layout negative decimal).whole.length + (ofDecimal layout negative decimal).power ≤
      64 := by
  unfold Decimal.leading at h
  have hmax : layout.maxPositional = 12 := rfl
  simp only [ofDecimal]
  split
  · next hplace =>
    split
    · simp [power]
    · simp [power]
      omega
  · simp only [power, List.length_take,
      Nat.ofDigitChars_toDigits (by omega : 1 < 10) (Nat.le_refl 10)]
    generalize decimal.exponent + ((Nat.toDigits 10 decimal.digits).length : ℤ) - 1 = place at h ⊢
    by_cases hneg : place < 0
    · rw [if_pos (decide_eq_true hneg)]
      omega
    · rw [if_neg (by simpa using hneg)]
      omega

/-- What is written for a finite number is read as some number. -/
theorem exists_single?_ofSingle? {number : Single} {token : NumberToken}
    (h : ofSingle? number = some token) : ∃ again, token.single? = some again := by
  obtain ⟨magnitude, hmagnitude, rfl⟩ := Option.map_eq_some_iff.1 h
  apply exists_single?
  split
  · simp [power]
  · next hne =>
    apply length_add_power_ofDecimal_le
    rcases binary32.shortest_pos (Nat.pos_of_ne_zero hne) with hpos | hzero
    · apply Decimal.leading_lt (dropZeros_pos hpos)
      rw [value_dropZeros]
      exact value_shortest_lt hmagnitude
    · rw [hzero]
      decide

end NumberToken

end ShapeFlow
