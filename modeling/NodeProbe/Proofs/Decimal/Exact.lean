import Mathlib.Algebra.Order.Field.Power
import Mathlib.Algebra.Order.Round
import Mathlib.Data.Rat.Floor
import Mathlib.Tactic.FieldSimp
import Mathlib.Tactic.Linarith
import Mathlib.Tactic.Positivity
import NodeProbe.Decimal.Binary

/-!
# Where doubles are exact

The double nearest to a positive number that is neither too small nor too large is `m · 2 ^ e` for
an integer `m` of fifty-three bits (`exists_mantissa`), and `m` is off by half at most. Two integers
that are no further apart than that are equal, so every whole number up to `2 ^ 53` is its own
nearest double (`rounded_intCast`), and a quotient of such numbers has the right whole part behind
the rounding (`floor_rounded_div`).
-/

namespace NodeProbe.Decimal

theorem power_eq (base n : Nat) : power base n = base ^ n :=
  rfl

theorem scaled_two (n : Nat) (e : Int) : scaled n 2 e = n * (2 : ℚ) ^ e := by
  unfold scaled
  split
  · rename_i he
    obtain ⟨k, rfl⟩ := Int.eq_ofNat_of_zero_le he
    simp [power_eq]
  · rename_i he
    obtain ⟨k, hk⟩ := Int.eq_ofNat_of_zero_le (show 0 ≤ -e by omega)
    obtain rfl : e = -(k : Int) := by omega
    rw [Rat.mkRat_eq_div, neg_neg, Int.toNat_natCast, power_eq, zpow_neg, zpow_natCast]
    push_cast
    rfl

/-! ## The bits of a double -/

/-- The double with these fields. -/
theorem ofBits_pack {field fraction : Nat} (hpos : 0 < field) (hfield : field < 2 ^ 11 - 1)
    (hfraction : fraction < 2 ^ 52) :
    Binary.ofBits (field * 2 ^ 52 + fraction) =
      .finite false (2 ^ 52 + fraction) (leastExponent + ((field : Int) - 1)) := by
  have hsign : (field * 2 ^ 52 + fraction) / 2 ^ 63 % 2 = 0 := by omega
  have hexponent : (field * 2 ^ 52 + fraction) / 2 ^ 52 % 2 ^ 11 = field := by omega
  have hlow : (field * 2 ^ 52 + fraction) % 2 ^ 52 = fraction := by omega
  simp only [Binary.ofBits, power_eq, hsign, hexponent, hlow]
  rw [if_neg (by omega), if_neg (by omega)]
  rfl

/-- A carry out of the fraction counts up the exponent. -/
theorem value?_ofBits {k m : Nat} (hk : k + 2 < 2 ^ 11 - 1) (hlow : 2 ^ 52 ≤ m)
    (hhigh : m ≤ 2 ^ 53) :
    (Binary.ofBits (k * 2 ^ 52 + m)).value? = some (m * (2 : ℚ) ^ (leastExponent + k)) := by
  rcases Nat.lt_or_ge m (2 ^ 53) with hm | hm
  · have hbits : k * 2 ^ 52 + m = (k + 1) * 2 ^ 52 + (m - 2 ^ 52) := by omega
    rw [hbits, ofBits_pack (by omega) (by omega) (by omega), Nat.add_sub_cancel' hlow]
    simp [Binary.value?, scaled_two]
  · obtain rfl : m = 2 ^ 53 := by omega
    have hbits : k * 2 ^ 52 + 2 ^ 53 = (k + 2) * 2 ^ 52 + 0 := by omega
    have hexponent : leastExponent + (((k + 2 : Nat) : Int) - 1) = leastExponent + k + 1 := by
      push_cast
      ring
    rw [hbits, ofBits_pack (by omega) (by omega) (by omega), hexponent]
    simp only [Binary.value?, scaled_two, if_false, Bool.false_eq_true]
    rw [zpow_add_one₀ two_ne_zero]
    congr 1
    push_cast
    ring

/-! ## Rounding -/

theorem roundHalfEven_spec (num : Nat) {den : Nat} (h : 0 < den) :
    2 * (roundHalfEven num den * den) ≤ 2 * num + den ∧
      2 * num ≤ 2 * (roundHalfEven num den * den) + den := by
  have hsplit := Nat.div_add_mod' num den
  have hmod := Nat.mod_lt num h
  have hone := Nat.add_mul (num / den) 1 den
  unfold roundHalfEven
  simp only
  split
  · omega
  · split
    · omega
    · -- The remainder is half of the denominator, so both neighbours are as near.
      rcases Nat.mod_two_eq_zero_or_one (num / den) with hparity | hparity
      · rw [hparity, Nat.add_zero]
        omega
      · rw [hparity]
        omega

theorem abs_roundHalfEven_sub_le (num : Nat) {den : Nat} (h : 0 < den) :
    |(roundHalfEven num den : ℚ) - num / den| ≤ 1 / 2 := by
  have hden : (0 : ℚ) < den := by exact_mod_cast h
  obtain ⟨hhigh, hlow⟩ := roundHalfEven_spec num h
  have hhigh' : 2 * ((roundHalfEven num den : ℚ) * den) ≤ 2 * num + den := by exact_mod_cast hhigh
  have hlow' : (2 * num : ℚ) ≤ 2 * (roundHalfEven num den * den) + den := by exact_mod_cast hlow
  have hnum : (num : ℚ) = num / den * den := (div_mul_cancel₀ _ hden.ne').symm
  rw [hnum] at hhigh' hlow'
  rw [abs_le]
  constructor <;> nlinarith

/-- Without quotients it is seen whether a power of two is not above one. -/
theorem fits_iff (num : Nat) {den : Nat} (hden : 0 < den) (k : Int) :
    (if 0 ≤ k then den * power 2 k.toNat ≤ num else den ≤ num * power 2 (-k).toNat) ↔
      (2 : ℚ) ^ k ≤ num / den := by
  have hden' : (0 : ℚ) < den := by exact_mod_cast hden
  rw [le_div_iff₀ hden']
  split
  · rename_i hpos
    obtain ⟨j, rfl⟩ := Int.eq_ofNat_of_zero_le hpos
    rw [Int.toNat_natCast, power_eq, zpow_natCast, Nat.mul_comm]
    exact_mod_cast Iff.rfl
  · rename_i hneg
    obtain ⟨j, hj⟩ := Int.eq_ofNat_of_zero_le (show 0 ≤ -k by omega)
    obtain rfl : k = -(j : Int) := by omega
    rw [neg_neg, Int.toNat_natCast, power_eq, zpow_neg, zpow_natCast,
      inv_mul_le_iff₀ (by positivity), Nat.mul_comm]
    exact_mod_cast Iff.rfl

theorem binaryScale_spec {num den : Nat} (hnum : 0 < num) (hden : 0 < den) :
    (2 : ℚ) ^ binaryScale num den ≤ num / den ∧
      (num / den : ℚ) < 2 ^ (binaryScale num den + 1) := by
  have hden' : (0 : ℚ) < den := by exact_mod_cast hden
  have hnumLow : (2 : ℚ) ^ (num.log2 : Int) ≤ num := by
    exact_mod_cast Nat.log2_self_le hnum.ne'
  have hnumHigh : (num : ℚ) < 2 ^ ((num.log2 : Int) + 1) := by
    exact_mod_cast Nat.lt_log2_self (n := num)
  have hdenLow : (2 : ℚ) ^ (den.log2 : Int) ≤ den := by
    exact_mod_cast Nat.log2_self_le hden.ne'
  have hdenHigh : (den : ℚ) < 2 ^ ((den.log2 : Int) + 1) := by
    exact_mod_cast Nat.lt_log2_self (n := den)
  -- The quotient of the leading bits is right or one too large.
  generalize hk : (num.log2 : Int) - den.log2 = k
  have hlow : (2 : ℚ) ^ (k - 1) ≤ num / den := by
    rw [le_div_iff₀ hden']
    calc (2 : ℚ) ^ (k - 1) * den ≤ 2 ^ (k - 1) * 2 ^ ((den.log2 : Int) + 1) := by gcongr
      _ = 2 ^ (num.log2 : Int) := by
        rw [← zpow_add₀ two_ne_zero]
        congr 1
        omega
      _ ≤ num := hnumLow
  have hhigh : (num : ℚ) / den < 2 ^ (k + 1) := by
    rw [div_lt_iff₀ hden']
    calc (num : ℚ) < 2 ^ ((num.log2 : Int) + 1) := hnumHigh
      _ = 2 ^ (k + 1) * 2 ^ (den.log2 : Int) := by
        rw [← zpow_add₀ two_ne_zero]
        congr 1
        omega
      _ ≤ 2 ^ (k + 1) * den := by gcongr
  have hfits := fits_iff num hden k
  unfold binaryScale
  simp only [hk]
  by_cases h : (2 : ℚ) ^ k ≤ num / den
  · rw [if_pos (hfits.mpr h)]
    exact ⟨h, hhigh⟩
  · rw [if_neg (mt hfits.mp h), Int.sub_add_cancel]
    exact ⟨hlow, not_le.mp h⟩

/-- The integer nearest to `num / den` counted in units of `2 ^ e`. -/
def mantissa (num den : Nat) (e : Int) : Nat :=
  if 0 ≤ e then roundHalfEven num (den * power 2 e.toNat)
  else roundHalfEven (num * power 2 (-e).toNat) den

theorem abs_mantissa_sub_le (num : Nat) {den : Nat} (h : 0 < den) (e : Int) :
    |(mantissa num den e : ℚ) - num / den / 2 ^ e| ≤ 1 / 2 := by
  unfold mantissa
  split
  · rename_i hsign
    obtain ⟨j, rfl⟩ := Int.eq_ofNat_of_zero_le hsign
    have hbound := abs_roundHalfEven_sub_le num (Nat.mul_pos h (Nat.two_pow_pos j))
    rw [Nat.cast_mul, ← div_div] at hbound
    rw [Int.toNat_natCast, power_eq, zpow_natCast]
    exact_mod_cast hbound
  · rename_i hsign
    obtain ⟨j, hj⟩ := Int.eq_ofNat_of_zero_le (show 0 ≤ -e by omega)
    obtain rfl : e = -(j : Int) := by omega
    have hbound := abs_roundHalfEven_sub_le (num * 2 ^ j) h
    rw [Nat.cast_mul, mul_div_right_comm] at hbound
    rw [neg_neg, Int.toNat_natCast, power_eq, zpow_neg, zpow_natCast, div_inv_eq_mul]
    exact_mod_cast hbound

/-- A number of units in the range of a mantissa has a mantissa in that range. -/
theorem mantissa_mem {num den : Nat} (h : 0 < den) {e : Int}
    (hlow : (2 : ℚ) ^ (e + 52) ≤ num / den) (hhigh : (num / den : ℚ) < 2 ^ (e + 53)) :
    2 ^ 52 ≤ mantissa num den e ∧ mantissa num den e ≤ 2 ^ 53 := by
  have hunit : (0 : ℚ) < 2 ^ e := by positivity
  have hnear := abs_le.mp (abs_mantissa_sub_le num h e)
  have hunitsLow : (2 : ℚ) ^ 52 ≤ num / den / 2 ^ e := by
    rw [le_div_iff₀ hunit, ← zpow_natCast, ← zpow_add₀ two_ne_zero, add_comm]
    exact hlow
  have hunitsHigh : (num / den : ℚ) / 2 ^ e < 2 ^ 53 := by
    rw [div_lt_iff₀ hunit, ← zpow_natCast, ← zpow_add₀ two_ne_zero, add_comm]
    exact hhigh
  have hgt : (2 ^ 52 : ℚ) < (mantissa num den e + 1 : Nat) := by
    push_cast
    linarith [hnear.1]
  have hlt : (mantissa num den e : ℚ) < (2 ^ 53 + 1 : Nat) := by
    push_cast
    linarith [hnear.2]
  exact ⟨Nat.lt_succ_iff.mp (by exact_mod_cast hgt), Nat.lt_succ_iff.mp (by exact_mod_cast hlt)⟩

theorem value?_nearestBits {num den : Nat} (hnum : 0 < num) (hden : 0 < den) {e : Int}
    (hscale : binaryScale num den = e + 52) (hsmallest : -1074 ≤ e) (hlargest : e < 971) :
    (Binary.ofBits (nearestBits num den)).value? = some (mantissa num den e * (2 : ℚ) ^ e) := by
  obtain ⟨hlow, hhigh⟩ := binaryScale_spec hnum hden
  rw [hscale] at hlow hhigh
  rw [show e + 52 + 1 = e + 53 by ring] at hhigh
  obtain ⟨hmLow, hmHigh⟩ := mantissa_mem hden hlow hhigh
  obtain ⟨k, hk⟩ := Int.eq_ofNat_of_zero_le (show 0 ≤ e - leastExponent by
    unfold leastExponent
    omega)
  have hkHigh : k + 2 < 2 ^ 11 - 1 := by
    unfold leastExponent at hk
    omega
  have hexponent : max leastExponent (binaryScale num den - 52) = e := by
    rw [hscale, Int.add_sub_cancel]
    exact max_eq_right hsmallest
  have hbits : nearestBits num den = k * 2 ^ 52 + mantissa num den e := by
    have hfits : k * 2 ^ 52 + mantissa num den e ≤ (2 ^ 11 - 1) * 2 ^ 52 := by omega
    unfold nearestBits
    rw [if_neg hnum.ne']
    simp only [hexponent, hk, Int.toNat_natCast]
    exact min_eq_left hfits
  rw [hbits, value?_ofBits hkHigh hmLow hmHigh, show leastExponent + k = e by omega]

/-- The double nearest to a number that is neither too small nor too large has fifty-three bits, and
the last one is off by half at most. -/
theorem exists_mantissa {x : ℚ} (hlow : (2 : ℚ) ^ (-1022 : Int) ≤ x)
    (hhigh : x < (2 : ℚ) ^ (1023 : Int)) :
    ∃ (m : Nat) (e : Int), rounded x = m * (2 : ℚ) ^ e ∧ (2 : ℚ) ^ (e + 52) ≤ x ∧
      x < (2 : ℚ) ^ (e + 53) ∧ |(m : ℚ) - x / 2 ^ e| ≤ 1 / 2 := by
  have hnum : 0 < x.num := Rat.num_pos.mpr (lt_of_lt_of_le (by positivity) hlow)
  have hnum' : 0 < x.num.natAbs := Int.natAbs_pos.mpr hnum.ne'
  have hx : (x.num.natAbs : ℚ) / x.den = x := by
    have habs : ((x.num.natAbs : Int) : ℚ) = x.num := by
      rw [Int.natAbs_of_nonneg hnum.le]
    rw [← Int.cast_natCast, habs, Rat.num_div_den]
  obtain ⟨hscaleLow, hscaleHigh⟩ := binaryScale_spec hnum' x.den_pos
  have hnear := abs_mantissa_sub_le x.num.natAbs x.den_pos (binaryScale x.num.natAbs x.den - 52)
  obtain ⟨e, he⟩ : ∃ e, binaryScale x.num.natAbs x.den = e + 52 :=
    ⟨_, (Int.sub_add_cancel _ 52).symm⟩
  rw [hx, he] at hscaleLow hscaleHigh
  rw [show e + 52 + 1 = e + 53 by ring] at hscaleHigh
  rw [hx, he, Int.add_sub_cancel] at hnear
  have hsmallest : -1074 ≤ e := by
    have := (zpow_lt_zpow_iff_right₀ one_lt_two).mp (hlow.trans_lt hscaleHigh)
    omega
  have hlargest : e < 971 := by
    have := (zpow_lt_zpow_iff_right₀ one_lt_two).mp (hscaleLow.trans_lt hhigh)
    omega
  refine ⟨mantissa x.num.natAbs x.den e, e, ?_, hscaleLow, hscaleHigh, hnear⟩
  rw [rounded, value?_nearestBits hnum' x.den_pos he hsmallest hlargest]
  exact if_neg (not_lt.mpr hnum.le)

/-! ## Whole numbers -/

/-- A number that is a whole number of units of the last bit is its own nearest double. -/
theorem rounded_eq_of_units {x : ℚ} (hlow : (2 : ℚ) ^ (-1022 : Int) ≤ x)
    (hhigh : x < (2 : ℚ) ^ (1023 : Int))
    (hunits : ∀ e : Int, (2 : ℚ) ^ (e + 52) ≤ x → x < (2 : ℚ) ^ (e + 53) →
      ∃ n : Int, x = n * 2 ^ e) : rounded x = x := by
  obtain ⟨m, e, hrounded, hscaleLow, hscaleHigh, hnear⟩ := exists_mantissa hlow hhigh
  obtain ⟨n, hn⟩ := hunits e hscaleLow hscaleHigh
  have hunit : (2 : ℚ) ^ e ≠ 0 := by positivity
  have hdistance : |((m - n : Int) : ℚ)| < (1 : Int) := by
    rw [hn, mul_div_cancel_right₀ _ hunit] at hnear
    push_cast
    linarith
  have hmn : (m : Int) = n := by
    rw [← Int.cast_abs, Int.cast_lt, Int.abs_lt_one_iff] at hdistance
    omega
  rw [hrounded, hn, ← hmn, Int.cast_natCast]

theorem rounded_zero : rounded 0 = 0 := by decide +kernel

theorem rounded_natCast {n : Nat} (h : n ≤ 2 ^ 53) : rounded n = n := by
  rcases Nat.eq_zero_or_pos n with rfl | hpos
  · exact rounded_zero
  have hone : (1 : ℚ) ≤ n := by exact_mod_cast hpos
  have hlarge : (n : ℚ) ≤ 2 ^ (53 : Int) := by exact_mod_cast h
  refine rounded_eq_of_units (le_trans ?_ hone) (hlarge.trans_lt ?_) fun e hlow hhigh => ?_
  · exact zpow_le_one_of_nonpos₀ one_le_two (by decide)
  · exact zpow_lt_zpow_right₀ one_lt_two (by decide)
  rcases Nat.lt_or_ge n (2 ^ 53) with hn | hn
  · -- Below the bound the unit is one half of one half … of one.
    have hn' : (n : ℚ) < 2 ^ (53 : Int) := by exact_mod_cast hn
    have he := (zpow_lt_zpow_iff_right₀ one_lt_two).mp (hlow.trans_lt hn')
    obtain ⟨j, hj⟩ := Int.eq_ofNat_of_zero_le (show 0 ≤ -e by omega)
    obtain rfl : e = -(j : Int) := by omega
    refine ⟨n * 2 ^ j, ?_⟩
    rw [zpow_neg, zpow_natCast, eq_mul_inv_iff_mul_eq₀ (by positivity)]
    push_cast
    rfl
  · obtain rfl : n = 2 ^ 53 := by omega
    have hcast : ((2 ^ 53 : Nat) : ℚ) = 2 ^ (53 : Int) := by norm_num
    rw [hcast] at hlow hhigh ⊢
    have hlow' := (zpow_le_zpow_iff_right₀ one_lt_two).mp hlow
    have hhigh' := (zpow_lt_zpow_iff_right₀ one_lt_two).mp hhigh
    obtain rfl : e = 1 := by omega
    exact ⟨2 ^ 52, by norm_num⟩

theorem rounded_neg (x : ℚ) : rounded (-x) = -rounded x := by
  have hbits : nearestBits (-x).num.natAbs (-x).den = nearestBits x.num.natAbs x.den := by
    rw [Rat.neg_num, Int.natAbs_neg, Rat.neg_den]
  rcases lt_trichotomy x 0 with hx | rfl | hx
  · have hnum : x.num < 0 := Rat.num_neg.mpr hx
    have hneg : ¬ (-x).num < 0 := by
      rw [Rat.neg_num]
      omega
    simp only [rounded, hbits, if_neg hneg, if_pos hnum]
    cases (Binary.ofBits (nearestBits x.num.natAbs x.den)).value? <;> simp
  · rw [neg_zero, rounded_zero, neg_zero]
  · have hnum : 0 < x.num := Rat.num_pos.mpr hx
    have hneg : (-x).num < 0 := by
      rw [Rat.neg_num]
      omega
    simp only [rounded, hbits, if_pos hneg, if_neg (not_lt.mpr hnum.le)]
    cases (Binary.ofBits (nearestBits x.num.natAbs x.den)).value? <;> simp

/-- Doubles count exactly up to `2 ^ 53`. -/
theorem rounded_intCast {n : Int} (h : |n| ≤ 2 ^ 53) : rounded n = n := by
  obtain ⟨k, rfl | rfl⟩ := Int.eq_nat_or_neg n
  · rw [abs_of_nonneg (Int.natCast_nonneg k)] at h
    exact rounded_natCast (by exact_mod_cast h)
  · rw [abs_neg, abs_of_nonneg (Int.natCast_nonneg k)] at h
    rw [Int.cast_neg, rounded_neg, Int.cast_natCast, rounded_natCast (by exact_mod_cast h)]

/-! ## Quotients -/

theorem abs_rounded_sub_le {x : ℚ} (hlow : (2 : ℚ) ^ (-1022 : Int) ≤ x)
    (hhigh : x < (2 : ℚ) ^ (1023 : Int)) : |rounded x - x| ≤ x / 2 ^ 53 := by
  obtain ⟨m, e, hrounded, hscaleLow, -, hnear⟩ := exists_mantissa hlow hhigh
  have hunit : (0 : ℚ) < 2 ^ e := by positivity
  have hfactor : rounded x - x = (m - x / 2 ^ e) * 2 ^ e := by
    rw [hrounded, sub_mul, div_mul_cancel₀ _ hunit.ne']
  have hsplit : (2 : ℚ) ^ (e + 52) = 2 ^ e * 2 ^ 52 := zpow_add₀ two_ne_zero e 52
  calc |rounded x - x| = |(m : ℚ) - x / 2 ^ e| * 2 ^ e := by rw [hfactor, abs_mul, abs_of_pos hunit]
    _ ≤ 1 / 2 * 2 ^ e := by gcongr
    _ = 2 ^ e * 2 ^ 52 / 2 ^ 53 := by ring
    _ ≤ x / 2 ^ 53 := by
      rw [← hsplit]
      gcongr

/-- The quotient of two whole numbers is among the normal doubles. -/
theorem quotient_mem {a b : Int} (ha : 0 < a) (ha' : a < 2 ^ 53) (hb : 0 < b) (hb' : b ≤ 2 ^ 53) :
    (2 : ℚ) ^ (-1022 : Int) ≤ a / b ∧ (a / b : ℚ) < 2 ^ (1023 : Int) := by
  have hden : (0 : ℚ) < b := by exact_mod_cast hb
  have hden' : (b : ℚ) ≤ 2 ^ 53 := by exact_mod_cast hb'
  have hnum : (1 : ℚ) ≤ a := by exact_mod_cast ha
  have hnum' : (a : ℚ) < 2 ^ 53 := by exact_mod_cast ha'
  constructor
  · rw [le_div_iff₀ hden]
    calc (2 : ℚ) ^ (-1022 : Int) * b ≤ 2 ^ (-1022 : Int) * 2 ^ (53 : Int) := by
          gcongr
          exact_mod_cast hden'
      _ = 2 ^ (-969 : Int) := (zpow_add₀ two_ne_zero _ _).symm
      _ ≤ 1 := zpow_le_one_of_nonpos₀ one_le_two (by decide)
      _ ≤ a := hnum
  · rw [div_lt_iff₀ hden]
    have hone : (1 : ℚ) ≤ b := by exact_mod_cast hb
    calc (a : ℚ) < 2 ^ (53 : Int) := by exact_mod_cast hnum'
      _ ≤ 2 ^ (1023 : Int) := zpow_le_zpow_right₀ one_le_two (by decide)
      _ ≤ 2 ^ (1023 : Int) * b := le_mul_of_one_le_right (by positivity) hone

/-- A quotient is as far from the next whole number as one part of its denominator, and the double
nearest to it is closer. -/
theorem floor_rounded_div {a b : Int} (ha : 0 ≤ a) (ha' : a < 2 ^ 53) (hb : 0 < b)
    (hb' : b ≤ 2 ^ 53) : (rounded (a / b)).floor = a / b := by
  rcases ha.eq_or_lt with rfl | hpos
  · rw [Int.cast_zero, zero_div, Int.zero_ediv, rounded_zero]
    rfl
  have hden : (0 : ℚ) < b := by exact_mod_cast hb
  have herror : |rounded (a / b) - a / b| < 1 / b := by
    have hnum : (a : ℚ) < 2 ^ 53 := by exact_mod_cast ha'
    obtain ⟨hlow, hhigh⟩ := quotient_mem hpos ha' hb hb'
    refine (abs_rounded_sub_le hlow hhigh).trans_lt ?_
    rw [div_div, div_lt_div_iff₀ (by positivity) hden]
    nlinarith
  have hsplit : (a : ℚ) / b = (a / b : Int) + (a % b : Int) / (b : ℚ) := by
    rw [div_eq_iff hden.ne', add_mul, div_mul_cancel₀ _ hden.ne']
    exact_mod_cast (Int.mul_comm (a / b) b ▸ (Int.mul_ediv_add_emod a b).symm)
  have hmod := Int.emod_nonneg a hb.ne'
  have hmod' := Int.emod_lt_of_pos a hb
  rcases hmod.eq_or_lt with hzero | hrest
  · -- The quotient is a whole number.
    have hexact : (a : ℚ) / b = (a / b : Int) := by
      rw [hsplit, ← hzero, Int.cast_zero, zero_div, add_zero]
    have hquotient : |a / b| ≤ 2 ^ 53 := by
      rw [abs_of_nonneg (Int.ediv_nonneg ha hb.le)]
      exact (Int.ediv_le_self b ha).trans ha'.le
    rw [hexact, rounded_intCast hquotient, Rat.floor_intCast]
  · have hrestLow : (1 : ℚ) / b ≤ (a % b : Int) / (b : ℚ) := by
      gcongr
      exact_mod_cast hrest
    have hrestHigh : ((a % b : Int) : ℚ) / b ≤ 1 - 1 / b := by
      rw [div_le_iff₀ hden, sub_mul, div_mul_cancel₀ _ hden.ne', one_mul]
      have : ((a % b : Int) : ℚ) + 1 ≤ b := by exact_mod_cast hmod'
      linarith
    obtain ⟨habove, hbelow⟩ := abs_lt.mp herror
    refine (Int.floor_eq_iff (a := rounded (a / b))).mpr ⟨?_, ?_⟩
    · linarith
    · linarith

end NodeProbe.Decimal
