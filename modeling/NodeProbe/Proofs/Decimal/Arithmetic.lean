import NodeProbe.Proofs.Decimal.Double

/-!
# What the language does with doubles

The language unpacks doubles, computes exactly and packs what it rounds. It keeps a quotient as its
whole part and two bits about the rest, which tell which way `roundHalfEven` goes and stay right
when it is shifted (`extended_shiftRight`); so what it rounds becomes the nearest double
(`toNat_pack_round`), as with products (`toBits_mul`). And a finite double is above or below zero if
its value is (`zero_lt_iff`, `lt_zero_iff`).
-/

namespace NodeProbe.Decimal

open Float.Model
open UnpackedFloat (ExtendedMantissa)

/-! ## Unpacking and packing -/

/-- The sign of a number. -/
def signOf (negative : Bool) : UnpackedFloat.Sign :=
  if negative then .negative else .positive

section Unpack

variable {k m : Nat} {negative : Bool}

/-- The fields of packed bits as the language sees them. -/
theorem unpackFields_packed {b : BitVec 64} (h : IsPacked k m)
    (hbits : b.toNat = k * 2 ^ 52 + m + if negative then 2 ^ 63 else 0) :
    (@UnpackedFloat.unpackMantissa .binary64 b).toNat = m % 2 ^ 52 ∧
      (@UnpackedFloat.unpackExponent .binary64 b).toNat = k + m / 2 ^ 52 ∧
      UnpackedFloat.Sign.ofBitVec (@UnpackedFloat.unpackSign .binary64 b) =
        signOf negative := by
  obtain ⟨hhigh, hlow, hfinite⟩ := h
  refine ⟨?_, ?_, ?_⟩
  · rw [UnpackedFloat.unpackMantissa_def, BitVec.extractLsb'_toNat, hbits]
    cases negative
    · simp
    · simp
      omega
  · rw [UnpackedFloat.unpackExponent_def, BitVec.extractLsb'_toNat, hbits,
      Nat.shiftRight_eq_div_pow]
    cases negative
    · simp
      omega
    · simp
      omega
  · have hsign : (@UnpackedFloat.unpackSign .binary64 b).toNat =
        if negative then 1 else 0 := by
      rw [UnpackedFloat.unpackSign_def, BitVec.extractLsb'_toNat, hbits,
        Nat.shiftRight_eq_div_pow]
      cases negative
      · simp
        omega
      · simp
        omega
    unfold UnpackedFloat.Sign.ofBitVec signOf
    cases negative
    · rw [if_pos (BitVec.toNat_inj.mp hsign)]
      rfl
    · rw [if_neg (fun hzero => by rw [hzero] at hsign; cases hsign)]
      rfl

/-- What the language makes of packed bits. -/
theorem unpack_packed {b : BitVec 64} (h : IsPacked k m) (hpos : 0 < m)
    (hbits : b.toNat = k * 2 ^ 52 + m + if negative then 2 ^ 63 else 0) :
    UnpackedFloat.unpack .binary64 b =
      .finite (signOf negative) m (leastExponent + k) hpos := by
  obtain ⟨hmantissa, hexponent, hsign⟩ := unpackFields_packed h hbits
  obtain ⟨hhigh, hlow, hfinite⟩ := h
  have hnotInfinite : @UnpackedFloat.unpackExponent .binary64 b ≠ -1#_ := by
    intro hones
    rw [hones] at hexponent
    have : (2047 : Nat) = k + m / 2 ^ 52 := hexponent
    omega
  unfold UnpackedFloat.unpack
  simp only
  rw [if_neg hnotInfinite]
  rcases Nat.lt_or_ge m (2 ^ 52) with hsmall | hlarge
  · have hk : k = 0 := hlow.resolve_right (by omega)
    have hzero : @UnpackedFloat.unpackExponent .binary64 b = 0#_ := by
      apply BitVec.eq_of_toNat_eq
      rw [hexponent, hk]
      simp
      omega
    have hnonzero : @UnpackedFloat.unpackMantissa .binary64 b ≠ 0#_ := by
      intro hnone
      rw [hnone] at hmantissa
      have : 0 = m % 2 ^ 52 := hmantissa
      omega
    rw [if_pos hzero, dif_neg hnonzero]
    refine UnpackedFloat.finite.injEq .. |>.mpr ⟨hsign, ?_, ?_⟩
    · rw [hmantissa]
      omega
    · rw [hexponent, hk]
      simp [leastExponent, Format.exponentBias]
      omega
  · have hnonzero : @UnpackedFloat.unpackExponent .binary64 b ≠ 0#_ := by
      intro hnone
      rw [hnone] at hexponent
      have : 0 = k + m / 2 ^ 52 := hexponent
      omega
    rw [if_neg hnonzero]
    refine UnpackedFloat.finite.injEq .. |>.mpr ⟨hsign, ?_, ?_⟩
    · rw [BitVec.toNat_append, hmantissa,
        ← Nat.shiftLeft_add_eq_or_of_lt (Nat.mod_lt m (Nat.two_pow_pos 52))]
      simp [Nat.shiftLeft_eq]
      omega
    · rw [hexponent]
      simp [leastExponent, Format.exponentBias]
      omega

/-- A double above zero. -/
theorem unpack_of_toBits {x : Float} (h : IsPacked k m) (hpos : 0 < m)
    (hx : x.toBits.toNat = k * 2 ^ 52 + m) :
    x.toModel.unpack = .finite .positive m (leastExponent + k) hpos :=
  @unpack_packed k m false _ h hpos (hx.trans (Nat.add_zero _).symm)

end Unpack

theorem toNat_packComponents (field fraction : Nat) :
    (UnpackedFloat.packComponents .binary64 .positive (BitVec.ofNat 11 field)
      (BitVec.ofNat 52 fraction)).toNat =
        field % 2 ^ 11 * 2 ^ 52 + fraction % 2 ^ 52 := by
  unfold UnpackedFloat.packComponents
  rw [BitVec.toNat_append, BitVec.toNat_append, BitVec.toNat_ofNat, BitVec.toNat_ofNat,
    ← Nat.shiftLeft_add_eq_or_of_lt (Nat.mod_lt _ (Nat.two_pow_pos 52))]
  simp [UnpackedFloat.Sign.toBitVec, Nat.shiftLeft_eq]

/-- The bits of a number with fifty-three bits, or with fewer at the least exponent. -/
theorem toNat_pack {k m : Nat} (hhigh : m < 2 ^ 53) (hlow : k = 0 ∨ 2 ^ 52 ≤ m) (hpos : 0 < m) :
    (UnpackedFloat.pack .binary64 (.finite .positive m (leastExponent + k) hpos)).toNat =
      min (k * 2 ^ 52 + m) infiniteBits := by
  have hbiased : (leastExponent + k + Format.binary64.exponentBias + (52 : Nat)).toNat = k + 1 := by
    simp [leastExponent, Format.exponentBias]
    omega
  unfold UnpackedFloat.pack infiniteBits
  simp only
  rw [hbiased]
  split
  · rename_i hinfinite
    have hk : 2 ^ 11 ≤ k + 1 + 1 := hinfinite
    have hbits : (UnpackedFloat.packedInfinity .binary64 .positive).toNat = 2047 * 2 ^ 52 := rfl
    rw [hbits]
    omega
  · rename_i hfinite
    have hk : ¬ 2 ^ 11 ≤ k + 1 + 1 := hfinite
    split
    · rename_i hnormal
      have hlog : m.log2 = 52 := Nat.succ.inj (hnormal.trans rfl)
      have hm := Nat.log2_self_le hpos.ne'
      rw [hlog] at hm
      refine (toNat_packComponents (k + 1) m).trans ?_
      omega
    · rename_i hsubnormal
      have hm : m < 2 ^ 52 := by
        by_contra hlarge
        apply hsubnormal
        have hlog := (Nat.log2_eq_iff hpos.ne').mpr ⟨not_lt.mp hlarge, hhigh⟩
        rw [hlog]
        rfl
      refine (toNat_packComponents 0 m).trans ?_
      omega

/-! ## Above and below zero -/

theorem lt_iff_compare (x y : Float) :
    x < y ↔ UnpackedFloat.compare x.toModel.unpack y.toModel.unpack = some .lt := by
  show Float.lt x y = true ↔ _
  unfold Float.lt
  rw [decide_eq_true_iff]
  exact beq_iff_eq

section Zero

variable {x : Float} {negative : Bool} {m : Nat} {q : Int}

/-- What the language makes of a finite double: a zero or another number, with the sign. -/
theorem unpack_cases (hx : Binary.ofFloat x = .finite negative m q) :
    m = 0 ∧ x.toModel.unpack = .zero (signOf negative) ∨
      ∃ hm : 0 < m, x.toModel.unpack = .finite (signOf negative) m q hm := by
  obtain ⟨k, hpacked, rfl, hbits⟩ := exists_isPacked_of_finite x.toBits.toNat_lt hx
  rcases Nat.eq_zero_or_pos m with rfl | hm
  · obtain rfl : k = 0 := hpacked.low.resolve_right (by omega)
    have hzero : x.toBits = if negative then 9223372036854775808 else 0 := by
      apply UInt64.toNat_inj.mp
      rw [hbits]
      cases negative <;> rfl
    refine .inl ⟨rfl, ?_⟩
    rw [← Float.ofBits_toBits x, hzero]
    cases negative <;> rfl
  · exact .inr ⟨hm, unpack_packed hpacked hm hbits⟩

theorem unpack_zero : (0 : Float).toModel.unpack = .zero .positive := rfl

/-- A finite double is above zero if it has no sign and is no zero. -/
theorem zero_lt_iff (hx : Binary.ofFloat x = .finite negative m q) :
    0 < x ↔ negative = false ∧ 0 < m := by
  rw [lt_iff_compare, unpack_zero]
  rcases unpack_cases hx with ⟨rfl, hunpack⟩ | ⟨hm, hunpack⟩
  · rw [hunpack]
    exact iff_of_false nofun nofun
  · rw [hunpack]
    cases negative
    · exact iff_of_true rfl ⟨rfl, hm⟩
    · exact iff_of_false nofun nofun

/-- A finite double is below zero if it has the sign and is no zero. -/
theorem lt_zero_iff (hx : Binary.ofFloat x = .finite negative m q) :
    x < 0 ↔ negative = true ∧ 0 < m := by
  rw [lt_iff_compare, unpack_zero]
  rcases unpack_cases hx with ⟨rfl, hunpack⟩ | ⟨hm, hunpack⟩
  · rw [hunpack]
    exact iff_of_false nofun nofun
  · rw [hunpack]
    cases negative
    · exact iff_of_false nofun nofun
    · exact iff_of_true rfl ⟨rfl, hm⟩

/-- A finite double is not different from itself. -/
theorem beq_self (hx : Binary.ofFloat x = .finite negative m q) : (x == x) = true := by
  show (UnpackedFloat.compare x.toModel.unpack x.toModel.unpack == some .eq) = true
  rcases unpack_cases hx with ⟨rfl, hunpack⟩ | ⟨hm, hunpack⟩
  · rw [hunpack]
    rfl
  · rw [hunpack]
    cases negative <;> simp [signOf, UnpackedFloat.compare]

end Zero

/-! ## Rounding -/

/-- A quotient as the language keeps it: its whole part, whether the rest is a half at least, and
whether it is neither nothing nor a half. -/
def extended (num den : Nat) : ExtendedMantissa :=
  ⟨num / den, decide (den ≤ 2 * (num % den)),
    decide (2 * (num % den) ≠ 0 ∧ 2 * (num % den) ≠ den)⟩

section Extended

variable {den : Nat}

theorem shiftRightOne_extended (num : Nat) (hden : 0 < den) :
    (extended num den).shiftRightOne = extended num (den * 2) := by
  have hrest := Nat.mod_lt num hden
  have hbit := Nat.mod_two_eq_zero_or_one (num / den)
  rw [extended, extended, ExtendedMantissa.shiftRightOne, Nat.mod_mul, ← Nat.div_div_eq_div_mul]
  generalize num % den = rest at hrest ⊢
  generalize num / den % 2 = bit at hbit ⊢
  simp only [ExtendedMantissa.mk.injEq, true_and]
  rcases hbit with rfl | rfl
  · constructor
    · simp
      omega
    · rw [Bool.eq_iff_iff]
      simp
      omega
  · constructor
    · simp
      omega
    · rw [Bool.eq_iff_iff]
      simp
      omega

/-- What is behind the last bit stays known from two bits. -/
theorem extended_shiftRight (num : Nat) (hden : 0 < den) (d : Nat) :
    extended num den >>> d = extended num (den * 2 ^ d) := by
  induction d with
  | zero =>
    rw [Nat.pow_zero, Nat.mul_one]
    rfl
  | succ d ih =>
    have hstep : extended num den >>> (d + 1) = (extended num den >>> d).shiftRightOne := rfl
    rw [hstep, ih, shiftRightOne_extended num (by positivity), Nat.pow_succ, Nat.mul_assoc]

theorem roundedMantissa_extended (num den : Nat) :
    (extended num den).roundedMantissa = roundHalfEven num den := by
  unfold roundHalfEven extended
  simp only
  rcases lt_trichotomy (2 * (num % den)) den with hlt | heq | hgt
  · rw [if_pos hlt, decide_eq_false (not_le.mpr hlt)]
    by_cases hzero : 2 * (num % den) = 0
    · rw [decide_eq_false (fun h => h.1 hzero)]
      rfl
    · rw [decide_eq_true ⟨hzero, hlt.ne⟩]
      rfl
  · rw [if_neg heq.not_lt, if_neg heq.not_gt, decide_eq_true heq.ge,
      decide_eq_false (fun h => h.2 heq)]
    rfl
  · rw [if_neg hgt.not_gt, if_pos hgt, decide_eq_true hgt.le,
      decide_eq_true ⟨(Nat.zero_le _).trans_lt hgt |>.ne', hgt.ne'⟩]
    rfl

/-- The whole part and the accuracy of the rest are the quotient. -/
theorem ofMantissaAndAccuracy_eq (num : Nat) (hden : 0 < den) :
    ExtendedMantissa.ofMantissaAndAccuracy (num / den)
      (UnpackedFloat.accuracyOfFraction (num % den) den) = extended num den := by
  have hrest := Nat.mod_lt num hden
  unfold UnpackedFloat.accuracyOfFraction extended
  split
  · rename_i hzero
    simp [hzero, hden.ne']
    rfl
  · rename_i hzero
    rcases lt_trichotomy (2 * (num % den)) den with hlt | heq | hgt
    · rw [Nat.compare_eq_lt.mpr hlt]
      simp [ExtendedMantissa.ofMantissaAndAccuracy, hlt.ne, hlt, hzero]
    · rw [Nat.compare_eq_eq.mpr heq]
      simp [ExtendedMantissa.ofMantissaAndAccuracy, heq]
    · rw [Nat.compare_eq_gt.mpr hgt]
      simp [ExtendedMantissa.ofMantissaAndAccuracy, hgt.ne', hgt.le, hzero]

end Extended

theorem targetExponent_eq (m : Nat) (e : Int) :
    Format.binary64.targetExponent (totalExponent m e) =
      max leastExponent ((m.log2 : Int) + e - 52) := by
  have hleast : Format.binary64.minExponent = leastExponent := rfl
  have hbits : ((Format.binary64.mantissaBits : Nat) : Int) = 53 := rfl
  unfold Format.targetExponent totalExponent
  rw [hleast, hbits, max_comm]
  congr 1
  omega

/-- A mantissa that is short enough is not shifted. -/
theorem shiftToTargetExponent_of_lt {m : Nat} {e : Int} (hm : m < 2 ^ 53)
    (he : leastExponent ≤ e) :
    UnpackedFloat.shiftToTargetExponent .binary64 m e .exact = (⟨m, false, false⟩, e) := by
  have hlog : m.log2 < 53 := by
    rcases Nat.eq_zero_or_pos m with rfl | hpos
    · decide
    · exact (Nat.log2_lt hpos.ne').mpr hm
  have hzero : (Format.binary64.targetExponent (totalExponent m e) - e).toNat = 0 := by
    rw [targetExponent_eq]
    omega
  simp only [UnpackedFloat.shiftToTargetExponent, UnpackedFloat.shiftToExponent, hzero]
  refine Prod.ext rfl ?_
  show e + ((0 : Nat) : Int) = e
  omega

/-- A mantissa into which one was carried is shifted by one bit. -/
theorem shiftToTargetExponent_carry {e : Int} (he : leastExponent ≤ e) :
    UnpackedFloat.shiftToTargetExponent .binary64 (2 ^ 53) e .exact =
      (⟨2 ^ 52, false, false⟩, e + 1) := by
  have hone : (Format.binary64.targetExponent (totalExponent (2 ^ 53) e) - e).toNat = 1 := by
    rw [targetExponent_eq, Nat.log2_two_pow]
    omega
  simp only [UnpackedFloat.shiftToTargetExponent, UnpackedFloat.shiftToExponent, hone]
  rfl

/-- The first shift rounds, and the second one makes up for a carry. -/
theorem toNat_pack_shifted {m k : Nat} {e : Int} {em : ExtendedMantissa}
    {accuracy : UnpackedFloat.Accuracy}
    (hshift : UnpackedFloat.shiftToTargetExponent .binary64 m e accuracy = (em, leastExponent + k))
    (hhigh : em.roundedMantissa ≤ 2 ^ 53) (hlow : k = 0 ∨ 2 ^ 52 ≤ em.roundedMantissa) :
    (UnpackedFloat.pack .binary64
      (UnpackedFloat.roundWithAccuracy .binary64 .positive m e accuracy)).toNat =
        min (k * 2 ^ 52 + em.roundedMantissa) infiniteBits := by
  rw [UnpackedFloat.roundWithAccuracy, hshift]
  simp only
  rcases hhigh.lt_or_eq with hlt | heq
  · rw [shiftToTargetExponent_of_lt hlt (by omega)]
    rcases Nat.eq_zero_or_pos em.roundedMantissa with hzero | hr
    · obtain rfl : k = 0 := by omega
      rw [dif_pos hzero, hzero]
      rfl
    · rw [dif_neg hr.ne']
      exact toNat_pack hlt hlow hr
  · rw [heq, shiftToTargetExponent_carry (by omega)]
    have hnext : leastExponent + (k : Int) + 1 = leastExponent + ((k + 1 : Nat) : Int) := by
      push_cast
      ring
    have hcarried : (k + 1) * 2 ^ 52 + 2 ^ 52 = k * 2 ^ 52 + 2 ^ 53 := by omega
    rw [dif_neg (show 2 ^ 52 ≠ 0 by omega), hnext, ← hcarried]
    exact toNat_pack (by omega) (.inr le_rfl) _

/-- The last bit of the double nearest to a number follows from the length of its whole part, if
that is long enough or counts what no double can do without. -/
theorem lastExponent_of_floor {m num den : Nat} {e : Int} (hnum : 0 < num) (hden : 0 < den)
    (hlow : m * (2 : ℚ) ^ e ≤ num / den) (hhigh : (num / den : ℚ) < (m + 1) * 2 ^ e)
    (he : e ≤ leastExponent ∨ 2 ^ 52 ≤ m) :
    lastExponent num den = max leastExponent ((m.log2 : Int) + e - 52) := by
  have hunit : (0 : ℚ) < 2 ^ e := by positivity
  apply lastExponent_eq hnum hden (le_max_left _ _)
  · rcases max_cases leastExponent ((m.log2 : Int) + e - 52) with ⟨heq, -⟩ | ⟨heq, hlt⟩
    · exact .inl heq
    · right
      have hm : m ≠ 0 := by
        rintro rfl
        have hzero : Nat.log2 0 = 0 := rfl
        omega
      have hmLow : (2 : ℚ) ^ (m.log2 : Int) ≤ m := by exact_mod_cast Nat.log2_self_le hm
      rw [heq, Int.sub_add_cancel, zpow_add₀ two_ne_zero]
      exact (mul_le_mul_of_nonneg_right hmLow hunit.le).trans hlow
  · have hmHigh : (m + 1 : ℚ) ≤ 2 ^ ((m.log2 : Int) + 1) := by
      exact_mod_cast Nat.succ_le_of_lt (Nat.lt_log2_self (n := m))
    calc (num / den : ℚ) < (m + 1) * 2 ^ e := hhigh
      _ ≤ 2 ^ ((m.log2 : Int) + 1) * 2 ^ e := by gcongr
      _ = 2 ^ ((m.log2 : Int) + 1 + e) := (zpow_add₀ two_ne_zero _ _).symm
      _ ≤ 2 ^ (max leastExponent ((m.log2 : Int) + e - 52) + 53) := by
        apply zpow_le_zpow_right₀ one_le_two
        omega

/-- A quotient whose whole part is long enough is rounded to the nearest double. -/
theorem toNat_pack_round {p q num den : Nat} {e : Int} (hq : 0 < q) (hnum : 0 < num)
    (hden : 0 < den) (hvalue : (num / den : ℚ) = p / q * 2 ^ e)
    (he : e ≤ leastExponent ∨ 2 ^ 52 ≤ p / q) :
    (UnpackedFloat.pack .binary64 (UnpackedFloat.roundWithAccuracy .binary64 .positive (p / q) e
      (UnpackedFloat.accuracyOfFraction (p % q) q))).toNat = nearestBits num den := by
  have hq' : (0 : ℚ) < q := Nat.cast_pos.mpr hq
  -- The last bit of the nearest double is the one to which the mantissa is shifted.
  have hlast : lastExponent num den = max leastExponent (((p / q).log2 : Int) + e - 52) := by
    apply lastExponent_of_floor hnum hden _ _ he
    · rw [hvalue]
      gcongr
      exact Nat.cast_div_le
    · rw [hvalue]
      gcongr
      rw [div_lt_iff₀ hq']
      exact_mod_cast Nat.lt_mul_of_div_lt (Nat.lt_succ_self (p / q)) hq
  have hlong : 2 ^ 52 ≤ p / q → 52 ≤ (p / q).log2 := fun h => (Nat.le_log2 (by omega)).mpr h
  obtain ⟨k, hk⟩ := Int.eq_ofNat_of_zero_le
    (sub_nonneg.mpr (leastExponent_le_lastExponent num den))
  obtain ⟨d, hd⟩ : ∃ d : Nat, lastExponent num den = e + d :=
    ⟨(lastExponent num den - e).toNat, by omega⟩
  have hrounded : roundHalfEven p (q * 2 ^ d) = mantissa num den (lastExponent num den) := by
    apply (isNearest_roundHalfEven p (show 0 < q * 2 ^ d by positivity)).unique
    have hquotient : (p : ℚ) / (q * 2 ^ d : Nat) = num / den / 2 ^ lastExponent num den := by
      rw [hvalue, hd, zpow_add₀ two_ne_zero, zpow_natCast]
      push_cast
      field_simp
    rw [hquotient]
    exact isNearest_mantissa num hden _
  have hshift : UnpackedFloat.shiftToTargetExponent .binary64 (p / q) e
      (UnpackedFloat.accuracyOfFraction (p % q) q) =
        (extended p (q * 2 ^ d), leastExponent + k) := by
    have hamount : (lastExponent num den - e).toNat = d := by omega
    simp only [UnpackedFloat.shiftToTargetExponent, UnpackedFloat.shiftToExponent,
      targetExponent_eq, ← hlast, hamount, ofMantissaAndAccuracy_eq p hq, extended_shiftRight p hq]
    refine Prod.ext rfl ?_
    show e + (d : Int) = leastExponent + k
    omega
  rw [nearestBits_of_pos hnum, hk, Int.toNat_natCast, ← hrounded, ← roundedMantissa_extended]
  apply toNat_pack_shifted hshift
  · rw [roundedMantissa_extended, hrounded]
    exact mantissa_lastExponent_le hnum hden
  · rw [roundedMantissa_extended, hrounded]
    rcases (lastExponent_spec hnum hden).1 with hleast | hlarge
    · left
      omega
    · right
      exact le_mantissa_lastExponent hden hlarge

/-- A whole mantissa that is long enough is rounded to the nearest double. -/
theorem toNat_pack_round_exact {m num den : Nat} {e : Int} (hm : 0 < m) (hden : 0 < den)
    (hvalue : (num / den : ℚ) = m * 2 ^ e) (he : e ≤ leastExponent ∨ 2 ^ 52 ≤ m) :
    (UnpackedFloat.pack .binary64
      (UnpackedFloat.roundWithAccuracy .binary64 .positive m e .exact)).toNat =
        nearestBits num den := by
  have hm' : (0 : ℚ) < m := Nat.cast_pos.mpr hm
  have hnum : 0 < num := by
    rcases Nat.eq_zero_or_pos num with rfl | h
    · have hproduct : (0 : ℚ) < m * 2 ^ e := by positivity
      rw [← hvalue, Nat.cast_zero, zero_div] at hproduct
      exact absurd hproduct (lt_irrefl 0)
    · exact h
  have hwhole := toNat_pack_round (p := m) Nat.one_pos hnum hden
    (by rw [hvalue, Nat.cast_one, div_one]) (by rwa [Nat.div_one])
  rwa [Nat.div_one, Nat.mod_one] at hwhole

/-! ## Products -/

/-- The product of two positive doubles one of which has fifty-three bits. -/
theorem toBits_mul {x y : Float} {k m k' m' num den : Nat} (h : IsPacked k m)
    (h' : IsPacked k' m') (hm : 0 < m) (hm' : 2 ^ 52 ≤ m')
    (hx : x.toBits.toNat = k * 2 ^ 52 + m) (hy : y.toBits.toNat = k' * 2 ^ 52 + m')
    (hden : 0 < den) (hvalue : (num / den : ℚ) = packedValue k m * packedValue k' m') :
    (x * y).toBits.toNat = nearestBits num den := by
  have hpos' : 0 < m' := by omega
  have hproduct : (x * y).toBits.toNat = (UnpackedFloat.pack .binary64
      (UnpackedFloat.mul .binary64 x.toModel.unpack y.toModel.unpack)).toNat := rfl
  rw [hproduct, unpack_of_toBits h hm hx, unpack_of_toBits h' hpos' hy]
  apply toNat_pack_round_exact (Nat.mul_pos hm hpos') hden
  · rw [hvalue, packedValue, packedValue, Nat.cast_mul,
      zpow_add₀ two_ne_zero _ (leastExponent + k')]
    ring
  · exact .inr (hm'.trans (Nat.le_mul_of_pos_left _ hm))

/-- A double above zero is packed. -/
theorem exists_isPacked_of_pos {x : Float} {y : ℚ} (hx : rational? x = some y) (hy : 0 < y) :
    ∃ k m, IsPacked k m ∧ 0 < m ∧ x.toBits.toNat = k * 2 ^ 52 + m ∧ y = packedValue k m := by
  unfold rational? at hx
  cases hparts : Binary.ofFloat x with
  | finite negative m q =>
    obtain ⟨k, hpacked, rfl, hbits⟩ := exists_isPacked_of_finite x.toBits.toNat_lt hparts
    rw [hparts, Binary.value?, scaled_two, Option.some_inj] at hx
    cases negative with
    | false =>
      have hvalue : y = packedValue k m := hx.symm
      rw [if_neg Bool.false_ne_true, Nat.add_zero] at hbits
      refine ⟨k, m, hpacked, ?_, hbits, hvalue⟩
      rcases Nat.eq_zero_or_pos m with rfl | hm
      · rw [hvalue, packedValue, Nat.cast_zero, zero_mul] at hy
        exact absurd hy (lt_irrefl 0)
      · exact hm
    | true =>
      have hnonneg : (0 : ℚ) ≤ m * 2 ^ (leastExponent + k : Int) := by positivity
      rw [if_pos rfl] at hx
      linarith
  | infinite negative => rw [hparts] at hx; cases hx
  | nan => rw [hparts] at hx; cases hx

/-- A thousand times a double above zero is the nearest double. -/
theorem rational?_mul_thousand_eq {x : Float} {y : ℚ} (hx : rational? x = some y) (hy : 0 < y) :
    rational? (x * 1000) =
      (Binary.ofBits (nearestBits (y * 1000).num.natAbs (y * 1000).den)).value? := by
  obtain ⟨k, m, hpacked, hm, hbits, rfl⟩ := exists_isPacked_of_pos hx hy
  have hthousand : IsPacked 1031 (1000 * 2 ^ 43) := ⟨by omega, .inr (by omega), by omega⟩
  have hthousandBits : (1000 : Float).toBits.toNat = 1031 * 2 ^ 52 + 1000 * 2 ^ 43 := rfl
  have hthousandValue : packedValue 1031 (1000 * 2 ^ 43) = 1000 := by
    rw [packedValue, leastExponent]
    norm_num
  have hnonneg : 0 ≤ packedValue k m * 1000 := by linarith
  have hproduct := toBits_mul hpacked hthousand hm (by omega) hbits hthousandBits
    (packedValue k m * 1000).den_pos
    (by rw [hthousandValue]; exact natAbs_num_div_den hnonneg)
  rw [rational?, Binary.ofFloat, hproduct]

/-- A thousand times a double above zero is rounded, or lies above all doubles. -/
theorem rational?_mul_thousand {x : Float} {y : ℚ} (hx : rational? x = some y) (hy : 0 < y) :
    rational? (x * 1000) = some (rounded (y * 1000)) ∨
      rational? (x * 1000) = none ∧ greatest < y * 1000 := by
  have hnonneg : 0 ≤ y * 1000 := by linarith
  rw [rational?_mul_thousand_eq hx hy]
  rcases rounded_of_nonneg hnonneg with ⟨k, m, hpacked, hnear, hvalue⟩ | ⟨hnear, -, hlarge⟩
  · left
    rw [hnear, value?_ofBits_packed hpacked, hvalue]
  · right
    rw [hnear, ofBits_infiniteBits]
    exact ⟨rfl, hlarge⟩

/-- A thousand times a double above zero is infinite exactly if it overflows. -/
theorem rational?_mul_thousand_eq_none_iff {x : Float} {y : ℚ} (hx : rational? x = some y)
    (hy : 0 < y) : rational? (x * 1000) = none ↔ (overflow : ℚ) ≤ y * 1000 := by
  have hnonneg : 0 ≤ y * 1000 := by linarith
  have hbits : nearestBits (y * 1000).num.natAbs (y * 1000).den = infiniteBits ↔ _ :=
    nearestBits_eq_infiniteBits_iff (y * 1000).den_pos
  rw [natAbs_num_div_den hnonneg] at hbits
  rw [rational?_mul_thousand_eq hx hy, ← hbits]
  rcases rounded_of_nonneg hnonneg with ⟨k, m, hpacked, hnear, -⟩ | ⟨hnear, -, -⟩
  · rw [hnear, value?_ofBits_packed hpacked]
    exact iff_of_false (Option.some_ne_none _) hpacked.lt_infiniteBits.ne
  · rw [hnear, ofBits_infiniteBits]
    exact ⟨fun _ => rfl, fun _ => rfl⟩

end NodeProbe.Decimal
