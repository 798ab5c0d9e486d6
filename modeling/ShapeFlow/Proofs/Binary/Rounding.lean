import Mathlib.Algebra.Order.Field.Power
import Mathlib.Data.Rat.Cast.Order
import Mathlib.Tactic.FieldSimp
import Mathlib.Tactic.Linarith
import Mathlib.Tactic.Positivity
import Mathlib.Tactic.Ring
import ShapeFlow.Binary.Rounding

/-!
Rounding never carries a quotient past a power of two: a quotient that is at most a power of two that
the format can hold is rounded to a number that is at most that power. Such quotients are in range.
-/

namespace ShapeFlow.Binary

/-- Of the two powers that stand for one with a signed exponent, one is trivial. -/
theorem pow_toNat_div (base : ℚ) (exponent : ℤ) :
    base ^ exponent.toNat / base ^ (-exponent).toNat = base ^ exponent := by
  rcases le_total 0 exponent with hpos | hneg
  · lift exponent to ℕ using hpos
    simp
  · obtain ⟨opposite, rfl⟩ : ∃ opposite : ℕ, exponent = -opposite := ⟨(-exponent).toNat, by omega⟩
    simp

def Magnitude.value (number : Magnitude) : ℚ :=
  number.mantissa * 2 ^ number.exponent

namespace Magnitude

theorem ratio_pos (number : Magnitude) : 0 < number.ratio.2 :=
  Nat.pow_pos (by omega)

theorem ratio_eq (number : Magnitude) :
    (number.ratio.1 : ℚ) / number.ratio.2 = number.value := by
  have hpow : (2 : ℚ) ^ number.exponent.toNat / 2 ^ (-number.exponent).toNat =
      2 ^ number.exponent := pow_toNat_div 2 _
  rw [value, ← hpow, ratio]
  simp only [Nat.pow_eq, Nat.cast_mul, Nat.cast_pow, Nat.cast_ofNat]
  rw [mul_div_assoc]

end Magnitude

theorem roundHalfEven_le {num den bound : ℕ} (hden : 0 < den) (h : num ≤ bound * den) :
    roundHalfEven num den ≤ bound := by
  unfold roundHalfEven
  split
  · exact Nat.div_le_of_le_mul (by rwa [Nat.mul_comm])
  · next hround =>
    have hrest : 0 < num % den := by
      by_contra hzero
      exact hround (.inl (by omega))
    have hbelow : num / den * den < bound * den := by
      have hsplit := Nat.div_add_mod num den
      rw [Nat.mul_comm] at hsplit
      omega
    exact Nat.lt_of_mul_lt_mul_right hbelow

/-- The logarithm of a quotient of positive numbers does not exceed it. -/
theorem pow_floorLog2_le {num den : ℕ} (hnum : 0 < num) (hden : 0 < den) :
    (2 : ℚ) ^ floorLog2 num den ≤ num / den := by
  have hdenq : (0 : ℚ) < den := by exact_mod_cast hden
  unfold floorLog2
  dsimp only
  split
  · next hle =>
    rw [← pow_toNat_div, div_le_div_iff₀ (by positivity) hdenq]
    simp only [Nat.pow_eq] at hle
    exact_mod_cast (Nat.mul_comm _ _).trans_le hle
  · -- the estimate is off by one, the quotient of the powers that bound the two numbers is not
    have hlow : 2 ^ num.log2 ≤ num := Nat.log2_self_le (by omega)
    have hhigh : den ≤ 2 ^ (den.log2 + 1) := Nat.lt_log2_self.le
    calc (2 : ℚ) ^ ((num.log2 : ℤ) - den.log2 - 1)
      _ = 2 ^ num.log2 / 2 ^ (den.log2 + 1) := by
        rw [← zpow_natCast, ← zpow_natCast, ← zpow_sub₀ (by norm_num)]
        congr 1
        push_cast
        ring
      _ ≤ num / den := by
        apply div_le_div₀ (by positivity) _ hdenq
        · exact_mod_cast hhigh
        · exact_mod_cast hlow

theorem floorLog2_le {num den : ℕ} {bound : ℤ} (hnum : 0 < num) (hden : 0 < den)
    (h : (num : ℚ) / den ≤ 2 ^ bound) : floorLog2 num den ≤ bound :=
  (zpow_le_zpow_iff_right₀ (by norm_num : (1 : ℚ) < 2)).1 ((pow_floorLog2_le hnum hden).trans h)

namespace Format

variable {format : Format}

theorem value_normalize (hprecision : 0 < format.precision) (number : Magnitude) :
    (format.normalize number).value = number.value := by
  unfold normalize
  split
  · next hcarried =>
    obtain ⟨bits, hbits⟩ : ∃ bits, format.precision = bits + 1 := ⟨_, (Nat.succ_pred_eq_of_pos hprecision).symm⟩
    simp only [Magnitude.value, hcarried, hbits, Nat.add_sub_cancel, Nat.pow_eq]
    rw [zpow_add_one₀ (by norm_num)]
    push_cast
    ring
  · rfl

/-- A quotient up to a power of two within the range of the format is rounded to a number up to that
power. -/
theorem exists_round? {num den : ℕ} {bound : ℤ} (hprecision : 0 < format.precision)
    (hmin : format.minExponent ≤ bound) (hrange : format.minExponent ≤ format.maxExponent)
    (hmax : bound - (format.precision - 1 : ℕ) ≤ format.maxExponent) (hden : 0 < den)
    (h : (num : ℚ) / den ≤ 2 ^ bound) :
    ∃ number, format.round? num den = some number ∧ number.value ≤ 2 ^ bound := by
  unfold round?
  by_cases hzero : num = 0
  · refine ⟨_, if_pos hzero, ?_⟩
    rw [Magnitude.value, Nat.cast_zero, zero_mul]
    positivity
  · rw [if_neg hzero]
    have hlog := floorLog2_le (Nat.pos_of_ne_zero hzero) hden h
    dsimp only
    generalize hplace : format.lastPlace num den = place
    have hplaceMin : place ≤ bound := by
      rw [← hplace, lastPlace]
      omega
    have hplaceMax : place ≤ format.maxExponent := by
      rw [← hplace, lastPlace]
      omega
    obtain ⟨room, hroom⟩ : ∃ room : ℕ, bound = place + room := ⟨(bound - place).toNat, by omega⟩
    have hcross : num * 2 ^ (-place).toNat ≤ 2 ^ room * (den * 2 ^ place.toNat) := by
      have hdenq : (0 : ℚ) < den := by exact_mod_cast hden
      rw [hroom, zpow_add₀ (by norm_num), zpow_natCast, ← pow_toNat_div, div_mul_eq_mul_div,
        div_le_div_iff₀ hdenq (by positivity), mul_comm _ ((2 : ℚ) ^ room), mul_assoc,
        mul_comm _ (den : ℚ)] at h
      exact_mod_cast h
    have hmantissa : roundHalfEven (num * Nat.pow 2 (-place).toNat) (den * Nat.pow 2 place.toNat) ≤
        2 ^ room :=
      roundHalfEven_le (Nat.mul_pos hden (Nat.pow_pos (by omega))) hcross
    generalize roundHalfEven _ _ = mantissa at hmantissa ⊢
    have hexponent : (format.normalize ⟨mantissa, place⟩).exponent ≤ format.maxExponent := by
      unfold normalize
      split
      · next hcarried =>
        -- the carried bit takes up room below the power of two
        rw [show mantissa = 2 ^ format.precision from hcarried] at hmantissa
        have hbits := (Nat.pow_le_pow_iff_right (by omega)).1 hmantissa
        dsimp only
        omega
      · exact hplaceMax
    refine ⟨_, if_neg (not_lt.2 hexponent), ?_⟩
    rw [value_normalize hprecision, Magnitude.value, hroom, zpow_add₀ (by norm_num), mul_comm,
      zpow_natCast]
    gcongr
    exact_mod_cast hmantissa

end Format

/-! ### Double precision -/

section

variable {a b : Magnitude} {num den bound : ℕ}

theorem exists_round?_binary64 (hden : 0 < den) (hbound : bound ≤ 1023)
    (h : (num : ℚ) / den ≤ 2 ^ bound) :
    ∃ number, binary64.round? num den = some number ∧ number.value ≤ 2 ^ bound := by
  rw [← zpow_natCast] at h ⊢
  apply Format.exists_round? (by decide) _ (by decide) _ hden h
  · have hmin : binary64.minExponent = -1074 := rfl
    omega
  · have hmax : binary64.maxExponent = 971 ∧ binary64.precision = 53 := ⟨rfl, rfl⟩
    omega

theorem exists_mul? (hbound : bound ≤ 1023) (h : a.value * b.value ≤ 2 ^ bound) :
    ∃ number, binary64.mul? a b = some number ∧ number.value ≤ 2 ^ bound := by
  apply exists_round?_binary64 (Nat.mul_pos a.ratio_pos b.ratio_pos) hbound
  rw [← a.ratio_eq, ← b.ratio_eq, div_mul_div_comm] at h
  exact_mod_cast h

theorem exists_div? (hb : 0 < b.mantissa) (hbound : bound ≤ 1023)
    (h : a.value / b.value ≤ 2 ^ bound) :
    ∃ number, binary64.div? a b = some number ∧ number.value ≤ 2 ^ bound := by
  have hratio : 0 < b.ratio.1 := Nat.mul_pos hb (Nat.pow_pos (by omega))
  apply exists_round?_binary64 (Nat.mul_pos a.ratio_pos hratio) hbound
  rw [← a.ratio_eq, ← b.ratio_eq, div_div_div_eq] at h
  exact_mod_cast h

end

end ShapeFlow.Binary
