import NodeProbe.Proofs.Decimal.Whole

/-!
# Sums and quotients of doubles

The language adds and divides exactly and rounds what comes out, so the sum and the quotient of two
doubles that are not negative stand for the rounded sum and the rounded quotient of their values
(`rational?_add`, `rational?_div`), as long as that is not too large for a double. Of two numbers
the first is not above the second, or the second is below it (`not_le_iff_lt`).
-/

namespace NodeProbe.Decimal

open Float.Model

/-! ## Sums -/

/-- A whole mantissa is made long enough and rounded to the nearest double. -/
theorem toNat_pack_normalize {m num den : Nat} {e : Int} {zeroSign : UnpackedFloat.Sign}
    (hm : 0 < m) (hden : 0 < den) (hvalue : (num / den : ℚ) = m * 2 ^ e) :
    (UnpackedFloat.pack .binary64 (UnpackedFloat.normalize .binary64 m e zeroSign)).toNat =
      nearestBits num den := by
  have hpositive : compare (m : Int) 0 = .gt := Int.compare_eq_gt.mpr (by omega)
  obtain ⟨d, hd⟩ : ∃ d : Nat, d = (e - max leastExponent ((m.log2 : Int) + e - 52)).toNat :=
    ⟨_, rfl⟩
  rw [UnpackedFloat.normalize, hpositive]
  simp only [UnpackedFloat.round, UnpackedFloat.decreaseExponent, targetExponent_eq,
    Int.toNat_natCast, ← hd, Nat.shiftLeft_eq]
  refine toNat_pack_round_exact (by positivity) hden ?_ ?_
  · rw [hvalue, zpow_sub₀ two_ne_zero, zpow_natCast]
    push_cast
    field_simp
  · rcases max_cases leastExponent ((m.log2 : Int) + e - 52) with ⟨heq, -⟩ | ⟨heq, -⟩
    · left
      omega
    · right
      calc 2 ^ 52 ≤ 2 ^ m.log2 * 2 ^ d := by
            rw [← Nat.pow_add]
            exact Nat.pow_le_pow_right two_pos (by omega)
        _ ≤ m * 2 ^ d := Nat.mul_le_mul_right _ (Nat.log2_self_le hm.ne')

section Packed

variable {x y : Float} {k m k' m' num den : Nat}

/-- The sum of two positive doubles. -/
theorem toBits_add (h : IsPacked k m) (h' : IsPacked k' m') (hm : 0 < m) (hm' : 0 < m')
    (hx : x.toBits.toNat = k * 2 ^ 52 + m) (hy : y.toBits.toNat = k' * 2 ^ 52 + m')
    (hden : 0 < den) (hvalue : (num / den : ℚ) = packedValue k m + packedValue k' m') :
    (x + y).toBits.toNat = nearestBits num den := by
  have hsum : (x + y).toBits.toNat = (UnpackedFloat.pack .binary64
      (UnpackedFloat.add .binary64 x.toModel.unpack y.toModel.unpack)).toNat := rfl
  obtain ⟨d, hd⟩ : ∃ d : Nat, k = min k k' + d := ⟨k - min k k', by omega⟩
  obtain ⟨d', hd'⟩ : ∃ d' : Nat, k' = min k k' + d' := ⟨k' - min k k', by omega⟩
  have hleast : min (leastExponent + k) (leastExponent + k') =
      leastExponent + (min k k' : Nat) := by omega
  have hshift : (leastExponent + k - (leastExponent + (min k k' : Nat))).toNat = d := by omega
  have hshift' : (leastExponent + k' - (leastExponent + (min k k' : Nat))).toNat = d' := by omega
  have hmantissa : UnpackedFloat.add .binary64 x.toModel.unpack y.toModel.unpack =
      UnpackedFloat.normalize .binary64 ((m * 2 ^ d + m' * 2 ^ d' : Nat) : Int)
        (leastExponent + (min k k' : Nat)) .positive := by
    rw [unpack_of_toBits h hm hx, unpack_of_toBits h' hm' hy]
    simp only [UnpackedFloat.add, UnpackedFloat.decreaseExponent, hleast, hshift, hshift',
      Nat.shiftLeft_eq]
    rfl
  rw [hsum, hmantissa]
  refine toNat_pack_normalize (by positivity) hden ?_
  rw [hvalue, packedValue_eq, packedValue_eq]
  generalize min k k' = least at hd hd'
  subst hd hd'
  rw [zpow_add₀ two_ne_zero leastExponent, zpow_natCast]
  push_cast
  ring

/-! ## Quotients -/

/-- The first mantissa is made so long that the whole quotient has fifty-three bits, or counts what
no double can do without. -/
theorem exists_divCore (k k' : Nat) (hm : 0 < m) (hm' : 0 < m') : ∃ (d : Nat) (e : Int),
    (e ≤ leastExponent ∨ 2 ^ 52 ≤ m * 2 ^ d / m') ∧ (k : Int) = k' + (d + e) ∧
      UnpackedFloat.divCore .binary64 m (leastExponent + k) m' (leastExponent + k') =
        (m * 2 ^ d / m', e, UnpackedFloat.accuracyOfFraction (m * 2 ^ d % m') m') := by
  obtain ⟨e, he⟩ : ∃ e : Int, e = min ((k : Int) - k')
      (max ((m.log2 : Int) - m'.log2 + k - k' - 53) leastExponent) := ⟨_, rfl⟩
  obtain ⟨d, hd⟩ : ∃ d : Nat, (k : Int) - k' - e = d := ⟨((k : Int) - k' - e).toNat, by omega⟩
  refine ⟨d, e, ?_, by omega, ?_⟩
  · rcases le_or_gt e leastExponent with hleast | hlarge
    · exact .inl hleast
    · right
      rw [Nat.le_div_iff_mul_le hm']
      calc 2 ^ 52 * m' ≤ 2 ^ 52 * 2 ^ (m'.log2 + 1) :=
            Nat.mul_le_mul_left _ (Nat.lt_log2_self).le
        _ = 2 ^ (52 + (m'.log2 + 1)) := (Nat.pow_add ..).symm
        _ ≤ 2 ^ (m.log2 + d) := Nat.pow_le_pow_right two_pos (by omega)
        _ = 2 ^ m.log2 * 2 ^ d := Nat.pow_add ..
        _ ≤ m * 2 ^ d := Nat.mul_le_mul_right _ (Nat.log2_self_le hm.ne')
  · have hdifference : leastExponent + (k : Int) - (leastExponent + k') = k - k' := by omega
    have hexponent : min ((k : Int) - k') (Format.binary64.targetExponent
        (totalExponent m (leastExponent + k) - totalExponent m' (leastExponent + k'))) = e := by
      have hleast : Format.binary64.minExponent = leastExponent := rfl
      have hbits : ((Format.binary64.mantissaBits : Nat) : Int) = 53 := rfl
      unfold Format.targetExponent totalExponent
      rw [hleast, hbits, he]
      congr 2
      omega
    simp only [UnpackedFloat.divCore, hdifference, hexponent, hd, Int.toNat_natCast,
      Nat.shiftLeft_eq]

/-- The quotient of two positive doubles. -/
theorem toBits_div (h : IsPacked k m) (h' : IsPacked k' m') (hm : 0 < m) (hm' : 0 < m')
    (hx : x.toBits.toNat = k * 2 ^ 52 + m) (hy : y.toBits.toNat = k' * 2 ^ 52 + m')
    (hnum : 0 < num) (hden : 0 < den)
    (hvalue : (num / den : ℚ) = packedValue k m / packedValue k' m') :
    (x / y).toBits.toNat = nearestBits num den := by
  have hquotient : (x / y).toBits.toNat = (UnpackedFloat.pack .binary64
      (UnpackedFloat.div .binary64 x.toModel.unpack y.toModel.unpack)).toNat := rfl
  obtain ⟨d, e, hlong, hexponent, hsteps⟩ := exists_divCore k k' hm hm'
  rw [hquotient, unpack_of_toBits h hm hx, unpack_of_toBits h' hm' hy]
  simp only [UnpackedFloat.div, hsteps]
  refine toNat_pack_round hm' hnum hden ?_ hlong
  have hm'' : (m' : ℚ) ≠ 0 := by positivity
  rw [hvalue, packedValue, packedValue, hexponent, ← Int.add_assoc,
    zpow_add₀ two_ne_zero (leastExponent + k'), zpow_add₀ two_ne_zero (d : Int), zpow_natCast]
  push_cast
  field_simp

end Packed

/-! ## Values -/

section Value

variable {x y z : Float} {a b c : ℚ}

/-- The double nearest to a number stands for the rounded number. -/
theorem rational?_of_toBits (h : z.toBits.toNat = nearestBits c.num.natAbs c.den) (hc : 0 ≤ c)
    (hgreatest : c ≤ greatest) : rational? z = some (rounded c) := by
  rcases rounded_of_nonneg hc with ⟨k, m, hpacked, hbits, hvalue⟩ | ⟨-, -, hlarge⟩
  · rw [rational?, Binary.ofFloat, h, hbits, value?_ofBits_packed hpacked, hvalue]
  · exact absurd hgreatest (not_le.mpr hlarge)

theorem rational?_zero (negative : Bool) (h : z.toBits.toNat =
    (UnpackedFloat.pack .binary64 (.zero (signOf negative))).toNat) : rational? z = some 0 := by
  rw [rational?, Binary.ofFloat, h]
  cases negative <;> decide +kernel

/-- The sum of two doubles above zero. -/
theorem rational?_add (hx : rational? x = some a) (hy : rational? y = some b) (ha : 0 < a)
    (hb : 0 < b) (hgreatest : a + b ≤ greatest) : rational? (x + y) = some (rounded (a + b)) := by
  obtain ⟨k, m, hpacked, hm, hbits, rfl⟩ := exists_isPacked_of_pos hx ha
  obtain ⟨k', m', hpacked', hm', hbits', rfl⟩ := exists_isPacked_of_pos hy hb
  have hnonneg : 0 ≤ packedValue k m + packedValue k' m' := (add_pos ha hb).le
  exact rational?_of_toBits (toBits_add hpacked hpacked' hm hm' hbits hbits' (Rat.den_pos _)
    (natAbs_num_div_den hnonneg)) hnonneg hgreatest

/-- The quotient of a double that is not negative by one above zero. -/
theorem rational?_div (hx : rational? x = some a) (hy : rational? y = some b) (ha : 0 ≤ a)
    (hb : 0 < b) (hgreatest : a / b ≤ greatest) : rational? (x / y) = some (rounded (a / b)) := by
  obtain ⟨k', m', hpacked', hm', hbits', rfl⟩ := exists_isPacked_of_pos hy hb
  rcases ha.eq_or_lt with rfl | hpos
  · obtain ⟨negative, m, q, hparts, hvalue⟩ := exists_finite_of_rational? hx
    rw [zero_div, rounded_zero]
    rcases unpack_cases hparts with ⟨-, hunpack⟩ | ⟨hm, -⟩
    · apply rational?_zero negative
      have hquotient : (x / y).toBits.toNat = (UnpackedFloat.pack .binary64
          (UnpackedFloat.div .binary64 x.toModel.unpack y.toModel.unpack)).toNat := rfl
      rw [hquotient, hunpack, unpack_of_toBits hpacked' hm' hbits']
      cases negative <;> rfl
    · have hunit : (0 : ℚ) < m * 2 ^ q := by positivity
      split at hvalue <;> linarith
  · obtain ⟨k, m, hpacked, hm, hbits, rfl⟩ := exists_isPacked_of_pos hx hpos
    have hquotient : 0 < packedValue k m / packedValue k' m' := div_pos hpos hb
    exact rational?_of_toBits (toBits_div hpacked hpacked' hm hm' hbits hbits'
      (Int.natAbs_pos.mpr (Rat.num_ne_zero.mpr hquotient.ne')) (Rat.den_pos _)
      (natAbs_num_div_den hquotient.le)) hquotient.le hgreatest

/-! ## Order -/

theorem compare_swap (u v : UnpackedFloat) :
    UnpackedFloat.compare v u = (UnpackedFloat.compare u v).map Ordering.swap := by
  rcases u with (_ | _) | _ | _ | ⟨_ | _, m, e, _⟩ <;>
    rcases v with (_ | _) | _ | _ | ⟨_ | _, m', e', _⟩ <;>
      first
      | rfl
      | simp [UnpackedFloat.compare, Ordering.swap_then, Std.OrientedCmp.eq_swap (a := e') (b := e),
          Std.OrientedCmp.eq_swap (a := m') (b := m)]

/-- Of two numbers the first is not above the second, or the second is below it. -/
theorem not_le_iff_lt (hx : rational? x = some a) (hy : rational? y = some b) :
    ¬ x ≤ y ↔ y < x := by
  obtain ⟨negative, m, q, hparts, -⟩ := exists_finite_of_rational? hx
  obtain ⟨negative', m', q', hparts', -⟩ := exists_finite_of_rational? hy
  have hle : x ≤ y ↔ (UnpackedFloat.compare x.toModel.unpack y.toModel.unpack).any Ordering.isLE :=
    decide_eq_true_iff
  rw [lt_iff_compare, compare_swap x.toModel.unpack, hle]
  cases hcompare : UnpackedFloat.compare x.toModel.unpack y.toModel.unpack with
  | none =>
    rcases unpack_cases hparts with ⟨-, hunpack⟩ | ⟨_, hunpack⟩ <;>
      rcases unpack_cases hparts' with ⟨-, hunpack'⟩ | ⟨_, hunpack'⟩ <;>
        rw [hunpack, hunpack'] at hcompare <;>
          cases negative <;> cases negative' <;> cases hcompare
  | some o => cases o <;> simp

end Value

end NodeProbe.Decimal
