import Mathlib.Algebra.Order.Group.Nat
import NodeProbe.Proofs.Decimal.Exact

/-!
# The double nearest to a number

The bits of a positive double are `k · 2 ^ 52 + m` for a mantissa `m` and the place `k` of its
exponent (`IsPacked`), and they grow with the number that they stand for (`packedValue_le_iff`). So
do the bits of the double nearest to a number (`nearestBits_mono`), which makes rounding monotone
(`rounded_mono`). Every number of the interval around a double has that double for its nearest one
(`nearestBits_eq_of_isNearest`); in particular a double is its own nearest one. From `overflow` on
the nearest one is infinite (`nearestBits_eq_infiniteBits_iff`).
-/

namespace NodeProbe.Decimal

/-! ## Nearest integers -/

/-- `m` is an integer nearest to `x`, and the even one of two. -/
structure IsNearest (x : ℚ) (m : Nat) : Prop where
  near : |(m : ℚ) - x| ≤ 1 / 2
  even : |(m : ℚ) - x| = 1 / 2 → m % 2 = 0

namespace IsNearest

variable {x y : ℚ} {m n : Nat}

theorem mono (hx : IsNearest x m) (hy : IsNearest y n) (hxy : x ≤ y) : m ≤ n := by
  by_contra hlt
  have hsucc : ((n + 1 : Nat) : ℚ) ≤ m := by exact_mod_cast not_le.mp hlt
  push_cast at hsucc
  obtain ⟨hxlow, hxhigh⟩ := abs_le.mp hx.near
  obtain ⟨hylow, hyhigh⟩ := abs_le.mp hy.near
  -- Both are a half away, on opposite sides, so both are even and follow each other.
  have hm : (m : ℚ) - x = 1 / 2 := by linarith
  have hn : (n : ℚ) - y = -(1 / 2) := by linarith
  have hmeven : m % 2 = 0 := hx.even (by rw [hm]; norm_num)
  have hneven : n % 2 = 0 := hy.even (by rw [hn]; norm_num)
  have hmn : (m : ℚ) = ((n + 1 : Nat) : ℚ) := by
    push_cast
    linarith
  have : m = n + 1 := by exact_mod_cast hmn
  omega

theorem unique (hm : IsNearest x m) (hn : IsNearest x n) : m = n :=
  le_antisymm (hm.mono hn le_rfl) (hn.mono hm le_rfl)

end IsNearest

theorem isNearest_roundHalfEven (num : Nat) {den : Nat} (h : 0 < den) :
    IsNearest (num / den) (roundHalfEven num den) := by
  refine ⟨abs_roundHalfEven_sub_le num h, fun htie => ?_⟩
  have hden : (0 : ℚ) < den := by exact_mod_cast h
  have htwice : 2 * (num % den) = den := by
    have hsplit : (num : ℚ) / den = (num / den : Nat) + (num % den : Nat) / (den : ℚ) := by
      rw [div_eq_iff hden.ne', add_mul, div_mul_cancel₀ _ hden.ne']
      exact_mod_cast (Nat.div_add_mod' num den).symm
    have hmod : ((num % den : Nat) : ℚ) < den := by exact_mod_cast Nat.mod_lt num h
    rw [hsplit] at htie
    unfold roundHalfEven at htie
    simp only at htie
    split at htie
    · rename_i hbelow
      have hbelow' : 2 * ((num % den : Nat) : ℚ) < den := by exact_mod_cast hbelow
      have hfrac : ((num % den : Nat) : ℚ) / den < 1 / 2 := by
        rw [div_lt_iff₀ hden]
        linarith
      have hpos : (0 : ℚ) ≤ ((num % den : Nat) : ℚ) / den := by positivity
      rw [sub_add_cancel_left, abs_neg, abs_of_nonneg hpos] at htie
      linarith
    · split at htie
      · rename_i habove
        have habove' : (den : ℚ) < 2 * ((num % den : Nat) : ℚ) := by exact_mod_cast habove
        have hfrac : (1 : ℚ) / 2 < ((num % den : Nat) : ℚ) / den := by
          rw [lt_div_iff₀ hden]
          linarith
        have hone : ((num % den : Nat) : ℚ) / den < 1 := (div_lt_one hden).mpr hmod
        push_cast at htie
        rw [add_sub_add_left_eq_sub, abs_of_pos (by linarith)] at htie
        linarith
      · omega
  unfold roundHalfEven
  simp only
  rw [if_neg (by omega), if_neg (by omega)]
  omega

theorem isNearest_mantissa (num : Nat) {den : Nat} (h : 0 < den) (e : Int) :
    IsNearest (num / den / 2 ^ e) (mantissa num den e) := by
  unfold mantissa
  split
  · rename_i hsign
    obtain ⟨j, rfl⟩ := Int.eq_ofNat_of_zero_le hsign
    have hnear := isNearest_roundHalfEven num (Nat.mul_pos h (Nat.two_pow_pos j))
    rw [Nat.cast_mul, ← div_div] at hnear
    rw [Int.toNat_natCast, power_eq, zpow_natCast]
    exact_mod_cast hnear
  · rename_i hsign
    obtain ⟨j, hj⟩ := Int.eq_ofNat_of_zero_le (show 0 ≤ -e by omega)
    obtain rfl : e = -(j : Int) := by omega
    have hnear := isNearest_roundHalfEven (num * 2 ^ j) h
    rw [Nat.cast_mul, mul_div_right_comm] at hnear
    rw [neg_neg, Int.toNat_natCast, power_eq, zpow_neg, zpow_natCast, div_inv_eq_mul]
    exact_mod_cast hnear

/-! ## Packed doubles -/

/-- The bits at which the doubles end and infinity stands. -/
def infiniteBits : Nat := 2047 * 2 ^ 52

/-- `k · 2 ^ 52 + m` are the bits of a double with the mantissa `m`: it has fifty-three bits, or
fewer at the least exponent. -/
structure IsPacked (k m : Nat) : Prop where
  high : m < 2 ^ 53
  low : k = 0 ∨ 2 ^ 52 ≤ m
  finite : k < 2046

/-- The number for which packed bits stand. -/
def packedValue (k m : Nat) : ℚ :=
  m * 2 ^ (leastExponent + k)

section Packed

variable {k m k' m' bits : Nat}

theorem exists_isPacked (h : bits < infiniteBits) :
    ∃ k m, IsPacked k m ∧ bits = k * 2 ^ 52 + m := by
  unfold infiniteBits at h
  rcases Nat.lt_or_ge bits (2 ^ 52) with hsmall | hlarge
  · exact ⟨0, bits, ⟨by omega, .inl rfl, by omega⟩, by omega⟩
  · refine ⟨bits / 2 ^ 52 - 1, 2 ^ 52 + bits % 2 ^ 52, ⟨by omega, .inr (by omega), by omega⟩, ?_⟩
    omega

theorem IsPacked.lt_infiniteBits (h : IsPacked k m) : k * 2 ^ 52 + m < infiniteBits := by
  obtain ⟨hhigh, -, hfinite⟩ := h
  unfold infiniteBits
  omega

theorem ofBits_packed (h : IsPacked k m) (negative : Bool) :
    Binary.ofBits (k * 2 ^ 52 + m + if negative then 2 ^ 63 else 0) =
      .finite negative m (leastExponent + k) := by
  obtain ⟨hhigh, hlow, hfinite⟩ := h
  obtain ⟨sign, hsign⟩ : ∃ sign : Nat, sign = if negative then 1 else 0 := ⟨_, rfl⟩
  have hone : sign ≤ 1 := by
    rw [hsign]
    split <;> omega
  have hadd : (if negative then 2 ^ 63 else 0) = sign * 2 ^ 63 := by
    rw [hsign]
    split <;> omega
  have hneg : decide (sign = 1) = negative := by
    rw [hsign]
    cases negative <;> rfl
  have htop : (k * 2 ^ 52 + m + sign * 2 ^ 63) / 2 ^ 63 % 2 = sign := by omega
  have hfraction : (k * 2 ^ 52 + m + sign * 2 ^ 63) % 2 ^ 52 = m % 2 ^ 52 := by omega
  have hfield : (k * 2 ^ 52 + m + sign * 2 ^ 63) / 2 ^ 52 % 2 ^ 11 = k + m / 2 ^ 52 := by
    have hquotient : (k * 2 ^ 52 + m + sign * 2 ^ 63) / 2 ^ 52 =
        k + m / 2 ^ 52 + 2 ^ 11 * sign := by omega
    rw [hquotient, Nat.add_mul_mod_self_left, Nat.mod_eq_of_lt (by omega)]
  rw [hadd]
  simp only [Binary.ofBits, power_eq, htop, hfraction, hfield, hneg]
  rw [if_neg (by omega)]
  rcases Nat.lt_or_ge m (2 ^ 52) with hm | hm
  · obtain rfl : k = 0 := by omega
    rw [if_pos (by omega), Nat.mod_eq_of_lt hm, Nat.cast_zero, add_zero]
  · have hm' : 2 ^ 52 + m % 2 ^ 52 = m := by omega
    have hplace : ((k + m / 2 ^ 52 : Nat) : Int) - 1 = k := by omega
    rw [if_neg (by omega), hm', hplace]

theorem ofBits_infiniteBits : Binary.ofBits infiniteBits = .infinite false := by
  decide +kernel

theorem packedValue_eq (k m : Nat) : packedValue k m = (m * 2 ^ k : Nat) * 2 ^ leastExponent := by
  rw [packedValue, add_comm, zpow_add₀ two_ne_zero, zpow_natCast]
  push_cast
  ring

theorem value?_ofBits_packed (h : IsPacked k m) :
    (Binary.ofBits (k * 2 ^ 52 + m)).value? = some (packedValue k m) := by
  have hbits : Binary.ofBits (k * 2 ^ 52 + m) = .finite false m (leastExponent + k) := by
    rw [← Nat.add_zero (k * 2 ^ 52 + m)]
    exact ofBits_packed h false
  rw [hbits, Binary.value?, scaled_two, if_neg Bool.false_ne_true, packedValue]

theorem mul_two_pow_le_of_packed (h : IsPacked k m) (h' : IsPacked k' m')
    (hle : k * 2 ^ 52 + m ≤ k' * 2 ^ 52 + m') : m * 2 ^ k ≤ m' * 2 ^ k' := by
  obtain ⟨hhigh, hlow, -⟩ := h
  obtain ⟨hhigh', hlow', -⟩ := h'
  rcases lt_trichotomy k k' with hk | rfl | hk
  · obtain ⟨j, rfl⟩ := Nat.exists_eq_add_of_lt hk
    calc m * 2 ^ k ≤ 2 ^ 53 * 2 ^ k := Nat.mul_le_mul_right _ hhigh.le
      _ = 2 ^ 52 * 2 ^ (k + 1) := by ring
      _ ≤ m' * 2 ^ (k + j + 1) :=
        Nat.mul_le_mul (by omega) (Nat.pow_le_pow_right (by omega) (by omega))
  · exact Nat.mul_le_mul_right _ (by omega)
  · omega

/-- The bits grow with the number. -/
theorem packedValue_le_iff (h : IsPacked k m) (h' : IsPacked k' m') :
    packedValue k m ≤ packedValue k' m' ↔ k * 2 ^ 52 + m ≤ k' * 2 ^ 52 + m' := by
  have hunit : (0 : ℚ) < 2 ^ leastExponent := by positivity
  rw [packedValue_eq, packedValue_eq, mul_le_mul_iff_left₀ hunit, Nat.cast_le]
  refine ⟨fun hle => ?_, mul_two_pow_le_of_packed h h'⟩
  by_contra hlt
  have hge := mul_two_pow_le_of_packed h' h (by omega)
  have heq : m * 2 ^ k = m' * 2 ^ k' := le_antisymm hle hge
  obtain ⟨hhigh, hlow, -⟩ := h
  obtain ⟨hhigh', hlow', -⟩ := h'
  rcases lt_trichotomy k k' with hk | rfl | hk
  · omega
  · have := Nat.eq_of_mul_eq_mul_right (Nat.two_pow_pos k) heq
    omega
  · obtain ⟨j, rfl⟩ := Nat.exists_eq_add_of_lt hk
    rw [show k' + j + 1 = k' + (j + 1) by omega, Nat.pow_add, ← Nat.mul_assoc,
      Nat.mul_right_comm] at heq
    have hsame := Nat.eq_of_mul_eq_mul_right (Nat.two_pow_pos k') heq
    have hpow : 2 ^ 1 ≤ 2 ^ (j + 1) := Nat.pow_le_pow_right (by omega) (by omega)
    have hprod : 2 ^ 52 * 2 ^ 1 ≤ m * 2 ^ (j + 1) := Nat.mul_le_mul (by omega) hpow
    omega

end Packed

/-! ## The bits of the nearest double -/

/-- The exponent of the last bit of the double nearest to `num / den`. -/
def lastExponent (num den : Nat) : Int :=
  max leastExponent (binaryScale num den - 52)

section NearestBits

variable {num den num' den' : Nat} {e : Int}

theorem leastExponent_le_lastExponent (num den : Nat) : leastExponent ≤ lastExponent num den :=
  le_max_left _ _

theorem lastExponent_eq (hnum : 0 < num) (hden : 0 < den) (hleast : leastExponent ≤ e)
    (hlow : e = leastExponent ∨ (2 : ℚ) ^ (e + 52) ≤ num / den)
    (hhigh : (num / den : ℚ) < 2 ^ (e + 53)) : lastExponent num den = e := by
  obtain ⟨hscaleLow, hscaleHigh⟩ := binaryScale_spec hnum hden
  have habove := (zpow_lt_zpow_iff_right₀ one_lt_two).mp (hscaleLow.trans_lt hhigh)
  unfold lastExponent
  rcases hlow with rfl | hlow
  · omega
  · have hbelow := (zpow_lt_zpow_iff_right₀ one_lt_two).mp (hlow.trans_lt hscaleHigh)
    omega

theorem lastExponent_spec (hnum : 0 < num) (hden : 0 < den) :
    (lastExponent num den = leastExponent ∨
        (2 : ℚ) ^ (lastExponent num den + 52) ≤ num / den) ∧
      (num / den : ℚ) < 2 ^ (lastExponent num den + 53) := by
  obtain ⟨hlow, hhigh⟩ := binaryScale_spec hnum hden
  unfold lastExponent
  rcases max_cases leastExponent (binaryScale num den - 52) with ⟨heq, hle⟩ | ⟨heq, hlt⟩
  · rw [heq]
    exact ⟨.inl rfl, hhigh.trans_le (zpow_le_zpow_right₀ one_le_two (by omega))⟩
  · rw [heq, Int.sub_add_cancel]
    refine ⟨.inr hlow, ?_⟩
    rwa [show binaryScale num den - 52 + 53 = binaryScale num den + 1 by omega]

theorem nearestBits_of_pos (hnum : 0 < num) :
    nearestBits num den = min
      ((lastExponent num den - leastExponent).toNat * 2 ^ 52 +
        mantissa num den (lastExponent num den)) infiniteBits := by
  unfold nearestBits
  rw [if_neg hnum.ne']
  rfl

theorem nearestBits_le_infiniteBits (num den : Nat) : nearestBits num den ≤ infiniteBits := by
  rcases Nat.eq_zero_or_pos num with rfl | hnum
  · exact Nat.zero_le _
  · rw [nearestBits_of_pos hnum]
    exact min_le_right _ _

theorem mantissa_lastExponent_le (hnum : 0 < num) (hden : 0 < den) :
    mantissa num den (lastExponent num den) ≤ 2 ^ 53 := by
  obtain ⟨-, hhigh⟩ := lastExponent_spec hnum hden
  have hunit : (0 : ℚ) < 2 ^ lastExponent num den := by positivity
  refine (isNearest_mantissa num hden (lastExponent num den)).mono
    (y := 2 ^ 53) ⟨by norm_num, by norm_num⟩ ?_
  rw [div_le_iff₀ hunit, ← zpow_natCast, ← zpow_add₀ two_ne_zero, add_comm]
  exact hhigh.le

theorem le_mantissa_lastExponent (hden : 0 < den)
    (hlow : (2 : ℚ) ^ (lastExponent num den + 52) ≤ num / den) :
    2 ^ 52 ≤ mantissa num den (lastExponent num den) := by
  have hunit : (0 : ℚ) < 2 ^ lastExponent num den := by positivity
  refine IsNearest.mono (x := 2 ^ 52) ⟨by norm_num, by norm_num⟩
    (isNearest_mantissa num hden (lastExponent num den)) ?_
  rw [le_div_iff₀ hunit, ← zpow_natCast, ← zpow_add₀ two_ne_zero, add_comm]
  exact hlow

/-- The larger the number, the larger the bits of its nearest double. -/
theorem nearestBits_mono (hden : 0 < den) (hden' : 0 < den')
    (hle : (num / den : ℚ) ≤ num' / den') : nearestBits num den ≤ nearestBits num' den' := by
  rcases Nat.eq_zero_or_pos num with rfl | hnum
  · exact Nat.zero_le _
  have hnum' : 0 < num' := by
    rcases Nat.eq_zero_or_pos num' with rfl | h
    · rw [Nat.cast_zero, zero_div] at hle
      have : (0 : ℚ) < num / den := by positivity
      linarith
    · exact h
  rw [nearestBits_of_pos hnum, nearestBits_of_pos hnum']
  refine min_le_min_right _ ?_
  obtain ⟨hlow, hhigh⟩ := lastExponent_spec hnum hden
  obtain ⟨hlow', hhigh'⟩ := lastExponent_spec hnum' hden'
  have hleast := leastExponent_le_lastExponent num den
  have hexponent : lastExponent num den ≤ lastExponent num' den' := by
    rcases hlow with heq | hlow
    · rw [heq]
      exact leastExponent_le_lastExponent _ _
    · have := (zpow_lt_zpow_iff_right₀ one_lt_two).mp ((hlow.trans hle).trans_lt hhigh')
      omega
  rcases hexponent.eq_or_lt with heq | hlt
  · rw [← heq]
    have hunit : (0 : ℚ) < 2 ^ lastExponent num den := by positivity
    have hmantissa := (isNearest_mantissa num hden (lastExponent num den)).mono
      (isNearest_mantissa num' hden' (lastExponent num den))
      (div_le_div_of_nonneg_right hle hunit.le)
    omega
  · -- The second number is normal, and its exponent alone makes its bits larger.
    have hmantissa := mantissa_lastExponent_le hnum hden
    have hmantissa' := le_mantissa_lastExponent hden' (hlow'.resolve_left (by omega))
    omega

/-- Just below a power of two, where the doubles lie twice as close, it is still the nearest one. -/
theorem isNearest_of_narrow {x : ℚ} {q : Int} (hlow : ((2 : ℚ) ^ 52 - 1 / 4) * 2 ^ q ≤ x)
    (hhigh : x < 2 ^ (q + 52)) :
    (2 : ℚ) ^ (q - 1 + 52) ≤ x ∧ IsNearest (x / 2 ^ (q - 1)) (2 ^ 53) := by
  have hhalf : (2 : ℚ) ^ q = 2 * 2 ^ (q - 1) := by
    rw [← zpow_one_add₀ two_ne_zero]
    congr 1
    omega
  have hunit : (0 : ℚ) < 2 ^ (q - 1) := by positivity
  have hlower : (2 : ℚ) ^ 53 - 1 / 2 ≤ x / 2 ^ (q - 1) := by
    rw [le_div_iff₀ hunit]
    rw [hhalf] at hlow
    linarith
  have hupper : x / 2 ^ (q - 1) < 2 ^ 53 := by
    rw [div_lt_iff₀ hunit, ← zpow_natCast, ← zpow_add₀ two_ne_zero]
    rwa [show ((53 : Nat) : Int) + (q - 1) = q + 52 by omega]
  refine ⟨?_, ?_, fun _ => by norm_num⟩
  · rw [show q - 1 + 52 = 52 + (q - 1) by omega, zpow_add₀ two_ne_zero, ← le_div_iff₀ hunit]
    refine le_trans ?_ hlower
    norm_num
  · rw [abs_le]
    push_cast
    constructor <;> linarith

/-- Around a double lie the numbers whose nearest double it is. Below a power of two the doubles lie
twice as close. -/
theorem nearestBits_eq_of_isNearest {k m : Nat} (hden : 0 < den) (hpacked : IsPacked k m)
    (hpos : 0 < m) (hnear : IsNearest (num / den / 2 ^ (leastExponent + k)) m)
    (hnarrow : m = 2 ^ 52 → 0 < k →
      ((2 : ℚ) ^ 52 - 1 / 4) * 2 ^ (leastExponent + k) ≤ num / den) :
    nearestBits num den = k * 2 ^ 52 + m := by
  have hbits := hpacked.lt_infiniteBits
  obtain ⟨hhigh, hlow, hfinite⟩ := hpacked
  obtain ⟨q, hq⟩ : ∃ q, q = leastExponent + (k : Int) := ⟨_, rfl⟩
  rw [← hq] at hnear hnarrow
  have hunit : (0 : ℚ) < 2 ^ q := by positivity
  have hden' : (0 : ℚ) < den := by exact_mod_cast hden
  obtain ⟨hbelow, habove⟩ := abs_le.mp hnear.near
  have hm : (1 : ℚ) ≤ m := by exact_mod_cast hpos
  have hm' : (m : ℚ) ≤ 2 ^ 53 - 1 := by
    have : m + 1 ≤ 2 ^ 53 := hhigh
    have hcast : ((m + 1 : Nat) : ℚ) ≤ ((2 ^ 53 : Nat) : ℚ) := by exact_mod_cast this
    push_cast at hcast
    linarith
  have hnum : 0 < num := by
    rcases Nat.eq_zero_or_pos num with rfl | h
    · rw [Nat.cast_zero, zero_div, zero_div] at habove
      linarith
    · exact h
  have hupper : (num / den : ℚ) < 2 ^ (q + 53) := by
    rw [zpow_add₀ two_ne_zero, mul_comm, ← div_lt_iff₀ hunit]
    have : (num / den / 2 ^ q : ℚ) < 2 ^ 53 := by linarith
    exact_mod_cast this
  rw [nearestBits_of_pos hnum]
  by_cases hbinade : q = leastExponent ∨ (2 : ℚ) ^ (q + 52) ≤ num / den
  · rw [lastExponent_eq hnum hden (by omega) hbinade hupper,
      (isNearest_mantissa num hden q).unique hnear, show (q - leastExponent).toNat = k by omega]
    exact min_eq_left hbits.le
  · -- The number lies below the power of two that the double is.
    obtain ⟨hkpos, hless⟩ := not_or.mp hbinade
    have hless' : (num / den / 2 ^ q : ℚ) < 2 ^ 52 := by
      rw [div_lt_iff₀ hunit, ← zpow_natCast, ← zpow_add₀ two_ne_zero, add_comm]
      exact not_le.mp hless
    have hpower : m = 2 ^ 52 := by
      have hcast : (m : ℚ) < ((2 ^ 52 + 1 : Nat) : ℚ) := by
        push_cast
        linarith
      have hlt : m < 2 ^ 52 + 1 := by exact_mod_cast hcast
      omega
    obtain ⟨hlast, hnext⟩ := isNearest_of_narrow (hnarrow hpower (by omega)) (not_le.mp hless)
    have hbelowPower : (num / den : ℚ) < 2 ^ (q - 1 + 53) := by
      rw [show q - 1 + 53 = q + 52 by omega]
      exact not_le.mp hless
    rw [lastExponent_eq hnum hden (by omega) (.inr hlast) hbelowPower,
      (isNearest_mantissa num hden (q - 1)).unique hnext]
    rw [show (q - 1 - leastExponent).toNat * 2 ^ 52 + 2 ^ 53 = k * 2 ^ 52 + m by omega]
    exact min_eq_left hbits.le

/-- A double is its own nearest one. -/
theorem nearestBits_of_eq_packedValue {k m : Nat} (hden : 0 < den) (hpacked : IsPacked k m)
    (heq : (num / den : ℚ) = packedValue k m) : nearestBits num den = k * 2 ^ 52 + m := by
  have hden' : (0 : ℚ) < den := by exact_mod_cast hden
  have hunit : (0 : ℚ) < 2 ^ (leastExponent + (k : Int)) := by positivity
  rcases Nat.eq_zero_or_pos m with rfl | hm
  · obtain rfl : k = 0 := hpacked.low.resolve_right (by omega)
    rw [packedValue, Nat.cast_zero, zero_mul, div_eq_zero_iff] at heq
    have hnum : num = 0 := by exact_mod_cast heq.resolve_right hden'.ne'
    rw [hnum]
    rfl
  refine nearestBits_eq_of_isNearest hden hpacked hm ?_ fun hpower _ => ?_
  · rw [heq, packedValue, mul_div_cancel_right₀ _ hunit.ne']
    constructor <;> norm_num
  · rw [heq, packedValue]
    refine mul_le_mul_of_nonneg_right ?_ hunit.le
    rw [hpower]
    norm_num

end NearestBits

/-! ## Rounding -/

section Rounded

variable {x y : ℚ}

theorem natAbs_num_div_den (hx : 0 ≤ x) : (x.num.natAbs : ℚ) / x.den = x := by
  have habs : ((x.num.natAbs : Int) : ℚ) = x.num := by
    rw [Int.natAbs_of_nonneg (Rat.num_nonneg.mpr hx)]
  rw [← Int.cast_natCast, habs, Rat.num_div_den]

/-- The greatest double. -/
def greatest : ℚ :=
  packedValue 2045 (2 ^ 53 - 1)

theorem isPacked_greatest : IsPacked 2045 (2 ^ 53 - 1) :=
  ⟨by omega, .inr (by omega), by omega⟩

theorem IsPacked.value_le_greatest {k m : Nat} (h : IsPacked k m) :
    packedValue k m ≤ greatest := by
  have hbits := h.lt_infiniteBits
  unfold infiniteBits at hbits
  exact (packedValue_le_iff h isPacked_greatest).mpr (by omega)

theorem greatest_nonneg : 0 ≤ greatest := by
  unfold greatest packedValue
  positivity

theorem nearestBits_greatest :
    nearestBits greatest.num.natAbs greatest.den = 2045 * 2 ^ 52 + (2 ^ 53 - 1) :=
  nearestBits_of_eq_packedValue greatest.den_pos isPacked_greatest
    (natAbs_num_div_den greatest_nonneg)

/-- The middle between the greatest double and the power of two above it. -/
def overflow : Nat :=
  (2 ^ 54 - 1) * 2 ^ 970

theorem overflow_eq : (overflow : ℚ) = (2 ^ 53 - 1 / 2) * 2 ^ (leastExponent + (2045 : Nat)) := by
  have hunit : (2 : ℚ) ^ (leastExponent + (2045 : Nat)) = 2 * 2 ^ 970 := by
    rw [show leastExponent + (2045 : Nat) = ((971 : Nat) : Int) from rfl, zpow_natCast, pow_succ']
  rw [hunit, overflow, Nat.cast_mul, Nat.cast_pow 2 970, Nat.cast_ofNat]
  generalize (2 : ℚ) ^ 970 = unit
  push_cast
  ring

/-- From that middle on the nearest double is infinite. -/
theorem nearestBits_eq_infiniteBits_iff {num den : Nat} (hden : 0 < den) :
    nearestBits num den = infiniteBits ↔ (overflow : ℚ) ≤ num / den := by
  have hunit : (0 : ℚ) < 2 ^ (leastExponent + (2045 : Nat)) := by positivity
  constructor
  · contrapose!
    intro hsmall
    refine ne_of_lt (lt_of_le_of_lt ?_ isPacked_greatest.lt_infiniteBits)
    rcases le_total (num / den : ℚ) greatest with hle | hle
    · rw [← nearestBits_greatest]
      apply nearestBits_mono hden greatest.den_pos
      rwa [natAbs_num_div_den greatest_nonneg]
    · -- Above the greatest double the number is nearer to it than to the power of two.
      have hlow : (2 ^ 53 - 1 : ℚ) ≤ num / den / 2 ^ (leastExponent + (2045 : Nat)) := by
        rw [le_div_iff₀ hunit]
        refine le_trans (le_of_eq ?_) hle
        rw [greatest, packedValue]
        norm_num
      have hhigh : (num / den / 2 ^ (leastExponent + (2045 : Nat)) : ℚ) < 2 ^ 53 - 1 / 2 := by
        rw [div_lt_iff₀ hunit, ← overflow_eq]
        exact hsmall
      have habs : |((2 ^ 53 - 1 : Nat) : ℚ) - num / den / 2 ^ (leastExponent + (2045 : Nat))| <
          1 / 2 := by
        rw [Nat.cast_sub (by norm_num), abs_lt]
        push_cast
        constructor <;> linarith
      exact (nearestBits_eq_of_isNearest hden isPacked_greatest (by omega)
        ⟨habs.le, fun heq => absurd heq habs.ne⟩ (by omega)).le
  · intro hlarge
    have hoverflow : nearestBits overflow 1 = infiniteBits := by decide +kernel
    refine le_antisymm (nearestBits_le_infiniteBits _ _) ?_
    rw [← hoverflow]
    exact nearestBits_mono Nat.one_pos hden (by simpa only [Nat.cast_one, div_one] using hlarge)

/-- A number that is not negative is rounded to a double, or it lies above all of them and stays as
it is. -/
theorem rounded_of_nonneg (hx : 0 ≤ x) :
    (∃ k m, IsPacked k m ∧ nearestBits x.num.natAbs x.den = k * 2 ^ 52 + m ∧
        rounded x = packedValue k m) ∨
      nearestBits x.num.natAbs x.den = infiniteBits ∧ rounded x = x ∧ greatest < x := by
  have hsign : ¬ x.num < 0 := not_lt.mpr (Rat.num_nonneg.mpr hx)
  rcases (nearestBits_le_infiniteBits x.num.natAbs x.den).lt_or_eq with hlt | heq
  · obtain ⟨k, m, hpacked, hbits⟩ := exists_isPacked hlt
    refine .inl ⟨k, m, hpacked, hbits, ?_⟩
    rw [rounded, hbits, value?_ofBits_packed hpacked]
    exact if_neg hsign
  · refine .inr ⟨heq, ?_, ?_⟩
    · rw [rounded, heq, ofBits_infiniteBits]
      rfl
    · by_contra hgreat
      have hmono : nearestBits x.num.natAbs x.den ≤
          nearestBits greatest.num.natAbs greatest.den := by
        apply nearestBits_mono x.den_pos greatest.den_pos
        rw [natAbs_num_div_den hx, natAbs_num_div_den greatest_nonneg]
        exact not_lt.mp hgreat
      rw [heq, nearestBits_greatest] at hmono
      unfold infiniteBits at hmono
      omega

theorem rounded_packedValue {k m : Nat} (h : IsPacked k m) :
    rounded (packedValue k m) = packedValue k m := by
  have hnonneg : 0 ≤ packedValue k m := by
    unfold packedValue
    positivity
  have hbits := nearestBits_of_eq_packedValue (packedValue k m).den_pos h
    (natAbs_num_div_den hnonneg)
  rw [rounded, hbits, value?_ofBits_packed h]
  exact if_neg (not_lt.mpr (Rat.num_nonneg.mpr hnonneg))

theorem rounded_nonneg (hx : 0 ≤ x) : 0 ≤ rounded x := by
  rcases rounded_of_nonneg hx with ⟨k, m, -, -, hvalue⟩ | ⟨-, hvalue, -⟩
  · rw [hvalue, packedValue]
    positivity
  · rw [hvalue]
    exact hx

theorem rounded_le_rounded_of_nonneg (hx : 0 ≤ x) (hxy : x ≤ y) : rounded x ≤ rounded y := by
  have hy := hx.trans hxy
  have hbits : nearestBits x.num.natAbs x.den ≤ nearestBits y.num.natAbs y.den := by
    apply nearestBits_mono x.den_pos y.den_pos
    rw [natAbs_num_div_den hx, natAbs_num_div_den hy]
    exact hxy
  rcases rounded_of_nonneg hx with ⟨k, m, hpacked, hxbits, hxvalue⟩ | ⟨hxbits, hxvalue, -⟩ <;>
  rcases rounded_of_nonneg hy with ⟨k', m', hpacked', hybits, hyvalue⟩ | ⟨hybits, hyvalue, hygreat⟩
  · rw [hxbits, hybits] at hbits
    rw [hxvalue, hyvalue]
    exact (packedValue_le_iff hpacked hpacked').mpr hbits
  · rw [hxvalue, hyvalue]
    exact hpacked.value_le_greatest.trans hygreat.le
  · have := hpacked'.lt_infiniteBits
    omega
  · rw [hxvalue, hyvalue]
    exact hxy

/-- Rounding keeps the order. -/
theorem rounded_mono : Monotone rounded := by
  intro x y hxy
  rcases le_total 0 x with hx | hx
  · exact rounded_le_rounded_of_nonneg hx hxy
  rcases le_total 0 y with hy | hy
  · have hneg := rounded_nonneg (neg_nonneg.mpr hx)
    rw [rounded_neg] at hneg
    linarith [rounded_nonneg hy]
  · have hneg := rounded_le_rounded_of_nonneg (neg_nonneg.mpr hy) (neg_le_neg hxy)
    rw [rounded_neg, rounded_neg] at hneg
    linarith

/-- A number that has been rounded is rounded to itself. -/
theorem rounded_rounded (x : ℚ) : rounded (rounded x) = rounded x := by
  have hnonneg : ∀ {x : ℚ}, 0 ≤ x → rounded (rounded x) = rounded x := by
    intro x hx
    rcases rounded_of_nonneg hx with ⟨k, m, hpacked, -, hvalue⟩ | ⟨-, hvalue, -⟩
    · rw [hvalue, rounded_packedValue hpacked]
    · rw [hvalue, hvalue]
  rcases le_total 0 x with hx | hx
  · exact hnonneg hx
  · have hneg := hnonneg (neg_nonneg.mpr hx)
    rw [rounded_neg, rounded_neg] at hneg
    exact neg_injective hneg

end Rounded

end NodeProbe.Decimal
