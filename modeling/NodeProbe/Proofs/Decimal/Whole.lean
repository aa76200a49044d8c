import NodeProbe.Proofs.Decimal.Arithmetic
import NodeProbe.Proofs.Decimal.Exact

/-!
# Doubles and what they stand for

A double is whole if it stands for an integer (`isInteger_iff`), and it is below or above zero if
what it stands for is (`lt_zero_iff_of_rational?`, `zero_lt_iff_of_rational?`). Both zeros stand for
zero, so they are whole and neither of the two; what is infinite or no number stands for nothing.
The double nearest to a number stands for the rounded number (`rational?_ofRat`), so every count up
to `2 ^ 53` is kept.
-/

namespace NodeProbe.Decimal

section Value

variable {x : Float} {y : ℚ}

theorem exists_finite_of_rational? (hx : rational? x = some y) :
    ∃ negative m q, Binary.ofFloat x = .finite negative m q ∧
      y = if negative then -(m * (2 : ℚ) ^ q) else m * (2 : ℚ) ^ q := by
  unfold rational? at hx
  cases hparts : Binary.ofFloat x with
  | finite negative m q =>
    rw [hparts, Binary.value?, scaled_two, Option.some_inj] at hx
    exact ⟨negative, m, q, rfl, hx.symm⟩
  | infinite negative => rw [hparts] at hx; cases hx
  | nan => rw [hparts] at hx; cases hx

theorem lt_zero_iff_of_rational? (hx : rational? x = some y) : x < 0 ↔ y < 0 := by
  obtain ⟨negative, m, q, hparts, rfl⟩ := exists_finite_of_rational? hx
  have hunit : (0 : ℚ) < 2 ^ q := by positivity
  rw [lt_zero_iff hparts, ← Nat.cast_pos (α := ℚ)]
  cases negative with
  | false =>
    have hnonneg : 0 ≤ (m : ℚ) * 2 ^ q := by positivity
    simp [hnonneg]
  | true => simp [mul_pos_iff_of_pos_right hunit]

theorem zero_lt_iff_of_rational? (hx : rational? x = some y) : 0 < x ↔ 0 < y := by
  obtain ⟨negative, m, q, hparts, rfl⟩ := exists_finite_of_rational? hx
  have hunit : (0 : ℚ) < 2 ^ q := by positivity
  rw [zero_lt_iff hparts, ← Nat.cast_pos (α := ℚ)]
  cases negative with
  | false => simp [mul_pos_iff_of_pos_right hunit]
  | true =>
    have hnonneg : 0 ≤ (m : ℚ) * 2 ^ q := by positivity
    simp [hnonneg]

theorem beq_self_of_rational? (hx : rational? x = some y) : (x == x) = true := by
  obtain ⟨negative, m, q, hparts, -⟩ := exists_finite_of_rational? hx
  exact beq_self hparts

end Value

/-- The mantissa is a multiple of the denominator exactly if the product is whole. -/
theorem mod_power_eq_zero_iff (m n : Nat) :
    m % power 2 n = 0 ↔ ∃ i : Int, (m : ℚ) * 2 ^ (-n : Int) = i := by
  have hunit : (2 : ℚ) ^ n ≠ 0 := by positivity
  rw [power_eq, zpow_neg, zpow_natCast]
  constructor
  · intro h
    obtain ⟨k, rfl⟩ := Nat.dvd_of_mod_eq_zero h
    refine ⟨k, ?_⟩
    push_cast
    rw [mul_comm ((2 : ℚ) ^ n), mul_inv_cancel_right₀ hunit]
  · rintro ⟨i, hi⟩
    rw [mul_inv_eq_iff_eq_mul₀ hunit] at hi
    have hdvd : ((2 ^ n : Nat) : Int) ∣ m := ⟨i, by rw [mul_comm]; exact_mod_cast hi⟩
    exact Nat.mod_eq_zero_of_dvd (Int.natCast_dvd_natCast.mp hdvd)

theorem exists_intCast_neg_iff {y : ℚ} : (∃ i : Int, -y = i) ↔ ∃ i : Int, y = i := by
  constructor
  · rintro ⟨i, hi⟩
    exact ⟨-i, by rw [Int.cast_neg, ← hi, neg_neg]⟩
  · rintro ⟨i, rfl⟩
    exact ⟨-i, by rw [Int.cast_neg]⟩

/-- A double is whole exactly if it stands for an integer. -/
theorem isInteger_iff {x : Float} : isInteger x = true ↔ ∃ i : Int, rational? x = some (i : ℚ) := by
  unfold isInteger rational?
  cases hparts : Binary.ofFloat x with
  | finite negative m q =>
    have hvalue : (∃ i : Int, (Binary.finite negative m q).value? = some (i : ℚ)) ↔
        ∃ i : Int, (m : ℚ) * 2 ^ q = i := by
      simp only [Binary.value?, scaled_two, Option.some_inj]
      cases negative
      · exact Iff.rfl
      · exact exists_intCast_neg_iff
    rw [hvalue, Bool.or_eq_true, decide_eq_true_iff, decide_eq_true_iff]
    rcases le_or_gt 0 q with hq | hq
    · obtain ⟨n, rfl⟩ := Int.eq_ofNat_of_zero_le hq
      exact iff_of_true (.inl hq) ⟨m * 2 ^ n, by push_cast; rfl⟩
    · have hexponent : q = -((-q).toNat : Int) := by omega
      rw [or_iff_right (not_le.mpr hq), mod_power_eq_zero_iff, ← hexponent]
  | infinite negative =>
    refine iff_of_false Bool.false_ne_true ?_
    rintro ⟨i, hi⟩
    cases hi
  | nan =>
    refine iff_of_false Bool.false_ne_true ?_
    rintro ⟨i, hi⟩
    cases hi

/-! ## Nearest doubles -/

theorem toBits_ofBits_packed {k m : Nat} (h : IsPacked k m) :
    (Float.ofBits (UInt64.ofNat (k * 2 ^ 52 + m))).toBits.toNat = k * 2 ^ 52 + m := by
  rcases Nat.eq_zero_or_pos m with rfl | hm
  · obtain rfl : k = 0 := h.low.resolve_right (by omega)
    rfl
  have hfinite := h.lt_infiniteBits
  unfold infiniteBits at hfinite
  have hbits : (UInt64.ofNat (k * 2 ^ 52 + m)).toBitVec.toNat =
      k * 2 ^ 52 + m + if false then 2 ^ 63 else 0 := by
    show (UInt64.ofNat (k * 2 ^ 52 + m)).toNat = _
    rw [UInt64.toNat_ofNat']
    simp
    omega
  show (Float.Model.UnpackedFloat.pack .binary64
    (Float.Model.UnpackedFloat.unpack .binary64 (UInt64.ofNat (k * 2 ^ 52 + m)).toBitVec)).toNat = _
  rw [unpack_packed h hm hbits]
  refine (toNat_pack h.high h.low hm).trans ?_
  unfold infiniteBits
  omega

theorem rational?_nearest {num den k m : Nat} (h : IsPacked k m)
    (hbits : nearestBits num den = k * 2 ^ 52 + m) :
    rational? (nearest false num den) = some (packedValue k m) := by
  have hnearest : nearest false num den = Float.ofBits (UInt64.ofNat (k * 2 ^ 52 + m)) := by
    rw [nearest, hbits, if_neg Bool.false_ne_true, Nat.add_zero]
  rw [hnearest, rational?, Binary.ofFloat, toBits_ofBits_packed h, value?_ofBits_packed h]

/-- The double nearest to a number stands for the rounded number. -/
theorem rational?_ofRat {x : ℚ} (hx : 0 ≤ x) (hgreatest : x ≤ greatest) :
    rational? (ofRat x) = some (rounded x) := by
  have hsign : ¬ x.num < 0 := not_lt.mpr (Rat.num_nonneg.mpr hx)
  rcases rounded_of_nonneg hx with ⟨k, m, hpacked, hbits, hvalue⟩ | ⟨-, -, hlarge⟩
  · rw [ofRat, decide_eq_false hsign, rational?_nearest hpacked hbits, hvalue]
  · exact absurd hlarge (not_lt.mpr hgreatest)

theorem ofInt_natCast (n : Nat) : ofInt n = ofRat n := by
  rw [ofInt, ofRat, Rat.num_natCast, Rat.den_natCast]

theorem natCast_le_greatest {n : Nat} (h : n ≤ 2 ^ 53) : (n : ℚ) ≤ greatest := by
  have hpacked : IsPacked 1075 (2 ^ 52) := ⟨by omega, .inr le_rfl, by omega⟩
  have hvalue : packedValue 1075 (2 ^ 52) = (2 ^ 53 : Nat) := by
    rw [packedValue, leastExponent]
    norm_num
  exact (Nat.cast_le.mpr h).trans (hvalue ▸ hpacked.value_le_greatest)

theorem rational?_ofInt {n : Nat} (h : n ≤ 2 ^ 53) : rational? (ofInt n) = some (n : ℚ) := by
  rw [ofInt_natCast, rational?_ofRat (Nat.cast_nonneg n) (natCast_le_greatest h), rounded_natCast h]

end NodeProbe.Decimal
