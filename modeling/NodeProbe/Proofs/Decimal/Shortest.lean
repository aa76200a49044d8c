import NodeProbe.Decimal.Shortest
import NodeProbe.Proofs.Decimal.Nearest

/-!
# The shortest decimal reads back

Whatever grid the search for the shortest decimal stops at, what it finds lies in the interval of
the numbers that round to the double (`Rounding.mem_of_onGrid`), and taking zeros off the end does
not change the number (`Digits.value_strip`). So the double nearest to `shortest m q` is the double
`m · 2 ^ q` (`nearestBits_shortest`).
-/

namespace NodeProbe.Decimal

/-! ## Powers with a sign -/

/-- One of the two powers is one, and the quotient is the power to the signed exponent. -/
theorem power_div_power {b : Nat} (hb : 0 < b) (e : Int) :
    (power b e.toNat : ℚ) / power b (-e).toNat = (b : ℚ) ^ e := by
  have hb' : (b : ℚ) ≠ 0 := by exact_mod_cast hb.ne'
  rw [power_eq, power_eq, Nat.cast_pow, Nat.cast_pow]
  rcases le_total 0 e with he | he
  · obtain ⟨n, rfl⟩ := Int.eq_ofNat_of_zero_le he
    have hneg : (-(n : Int)).toNat = 0 := by omega
    rw [hneg, pow_zero, div_one, Int.toNat_natCast, zpow_natCast]
  · obtain ⟨n, hn⟩ := Int.eq_ofNat_of_zero_le (neg_nonneg.mpr he)
    obtain rfl : e = -(n : Int) := by omega
    have hpos : (-(n : Int)).toNat = 0 := by omega
    rw [hpos, pow_zero, neg_neg, Int.toNat_natCast, zpow_neg, zpow_natCast, one_div]

theorem power_pos {b : Nat} (hb : 0 < b) (n : Nat) : (0 : ℚ) < power b n := by
  rw [power_eq]
  positivity

/-! ## Decimals as numbers -/

namespace Digits

/-- The number that a decimal stands for. -/
def value (d : Digits) : ℚ :=
  d.digits * 10 ^ d.exponent

theorem value_eq_div (d : Digits) :
    d.value =
      (d.digits * power 10 d.exponent.toNat : Nat) / (power 10 (-d.exponent).toNat : Nat) := by
  rw [value, Nat.cast_mul, mul_div_assoc, power_div_power (by omega)]
  rfl

theorem value_stripUpTo (fuel : Nat) (d : Digits) : (d.stripUpTo fuel).value = d.value := by
  induction fuel generalizing d with
  | zero => rfl
  | succ fuel ih =>
    unfold stripUpTo
    split
    · rename_i hzero
      have hdigits : (d.digits : ℚ) = 10 * (d.digits / 10 : Nat) := by
        exact_mod_cast (Nat.mul_div_cancel' (Nat.dvd_of_mod_eq_zero hzero)).symm
      rw [ih, value, value, zpow_add_one₀ (by norm_num), hdigits]
      ring
    · rfl

theorem value_strip (d : Digits) : d.strip.value = d.value := by
  unfold strip
  split
  · rename_i hzero
    rw [value, value, hzero, Nat.cast_zero, zero_mul, zero_mul]
  · exact value_stripUpTo _ d

end Digits

/-- All the digits of a double stand for the double. -/
theorem value_expansion (m : Nat) (q : Int) : (expansion m q).value = m * (2 : ℚ) ^ q := by
  unfold expansion Digits.value
  simp only [power_eq]
  push_cast
  rcases le_total 0 q with hq | hq
  · obtain ⟨n, rfl⟩ := Int.eq_ofNat_of_zero_le hq
    have hneg : (-(n : Int)).toNat = 0 := by omega
    rw [min_eq_right hq, hneg, Int.toNat_natCast, pow_zero, zpow_zero, zpow_natCast]
    ring
  · obtain ⟨n, hn⟩ := Int.eq_ofNat_of_zero_le (neg_nonneg.mpr hq)
    obtain rfl : q = -(n : Int) := by omega
    have hpos : (-(n : Int)).toNat = 0 := by omega
    have hten : (10 : ℚ) ^ n = 2 ^ n * 5 ^ n := by rw [← mul_pow]; norm_num
    rw [min_eq_left hq, hpos, neg_neg, Int.toNat_natCast, pow_zero, zpow_neg, zpow_neg,
      zpow_natCast, zpow_natCast, hten]
    field_simp

/-! ## The interval of a double -/

/-- `x` lies in the interval whose ends are in quarters of the last bit of `m · 2 ^ q`. -/
structure Rounding.Holds (r : Rounding) (q : Int) (x : ℚ) : Prop where
  low : r.low * (2 : ℚ) ^ (q - 2) ≤ x
  high : x ≤ r.high * (2 : ℚ) ^ (q - 2)
  inner : r.closed = false → r.low * (2 : ℚ) ^ (q - 2) < x ∧ x < r.high * (2 : ℚ) ^ (q - 2)

namespace Rounding

variable {r : Rounding} {q e : Int} {m : Nat} {d : Digits}

/-- Whether a point of a grid lies in the interval is seen without fractions. -/
theorem le_mul_iff (hnum : r.unitNum = power 2 (q - 2).toNat)
    (hden : r.unitDen = power 2 (2 - q).toNat) (a n : Nat) (e : Int) :
    (a * (r.unitNum * power 10 (-e).toNat) ≤ n * (r.unitDen * power 10 e.toNat) ↔
        a * (2 : ℚ) ^ (q - 2) ≤ n * (10 : ℚ) ^ e) ∧
      (n * (r.unitDen * power 10 e.toNat) ≤ a * (r.unitNum * power 10 (-e).toNat) ↔
        n * (10 : ℚ) ^ e ≤ a * (2 : ℚ) ^ (q - 2)) := by
  have htwo := power_div_power (b := 2) (by omega) (q - 2)
  have hten := power_div_power (b := 10) (by omega) e
  rw [show -(q - 2) = 2 - q by omega] at htwo
  have hden' := power_pos (b := 2) (by omega) (2 - q).toNat
  have hden'' := power_pos (b := 10) (by omega) (-e).toNat
  push_cast at htwo hten
  rw [← htwo, ← hten, hnum, hden, mul_div_assoc', mul_div_assoc']
  constructor
  · rw [div_le_div_iff₀ hden' hden'', ← Nat.cast_le (α := ℚ)]
    push_cast
    ring_nf
  · rw [div_le_div_iff₀ hden'' hden', ← Nat.cast_le (α := ℚ)]
    push_cast
    ring_nf

/-- A point of a grid lies in the interval. -/
def inside (r : Rounding) (e : Int) (n : Nat) : Bool :=
  let up := r.unitNum * power 10 (-e).toNat
  let down := r.unitDen * power 10 e.toNat
  if r.closed then r.low * up ≤ n * down && n * down ≤ r.high * up
  else r.low * up < n * down && n * down < r.high * up

/-- The search stops only at a point inside. -/
theorem inside_of_onGrid (h : r.onGrid e = some d) :
    d.exponent = e ∧ r.inside e d.digits = true := by
  unfold onGrid at h
  simp only at h
  split at h
  · rename_i hlower hupper
    obtain rfl := Option.some.inj h
    refine ⟨rfl, ?_⟩
    show r.inside e (if _ then _ else _) = true
    split
    · exact hupper
    · exact hlower
  · rename_i hlower _
    obtain rfl := Option.some.inj h
    exact ⟨rfl, hlower⟩
  · rename_i _ hupper
    obtain rfl := Option.some.inj h
    exact ⟨rfl, hupper⟩
  · cases h

theorem holds_of_onGrid (hnum : r.unitNum = power 2 (q - 2).toNat)
    (hden : r.unitDen = power 2 (2 - q).toNat) (h : r.onGrid e = some d) :
    r.Holds q d.value := by
  obtain ⟨rfl, hinside⟩ := inside_of_onGrid h
  obtain ⟨hlow, hlow'⟩ := le_mul_iff hnum hden r.low d.digits d.exponent
  obtain ⟨hhigh, hhigh'⟩ := le_mul_iff hnum hden r.high d.digits d.exponent
  unfold Digits.value
  unfold inside at hinside
  simp only at hinside
  split at hinside
  · rename_i hclosed
    rw [Bool.and_eq_true, decide_eq_true_iff, decide_eq_true_iff] at hinside
    refine ⟨hlow.mp hinside.1, hhigh'.mp hinside.2, fun hopen => ?_⟩
    rw [hopen] at hclosed
    cases hclosed
  · rw [Bool.and_eq_true, decide_eq_true_iff, decide_eq_true_iff] at hinside
    have hbelow := not_le.mp (mt hlow'.mpr (not_le.mpr hinside.1))
    have habove := not_le.mp (mt hhigh.mpr (not_le.mpr hinside.2))
    exact ⟨hbelow.le, habove.le, fun _ => ⟨hbelow, habove⟩⟩

theorem low_of_narrow (hq : leastExponent < q) : (Rounding.of (2 ^ 52) q).low = 2 ^ 54 - 1 := by
  have hnarrow : (decide (2 ^ 52 = power 2 52) && decide (leastExponent < q)) = true := by
    rw [decide_eq_true hq, decide_eq_true (power_eq 2 52).symm]
    rfl
  unfold Rounding.of
  simp only
  rw [if_pos hnarrow]
  omega

/-- The double itself lies in its interval. -/
theorem holds_self (hm : 0 < m) (q : Int) : (Rounding.of m q).Holds q (m * 2 ^ q) := by
  have hunit : (0 : ℚ) < 2 ^ (q - 2) := by positivity
  have hquarters : (m : ℚ) * 2 ^ q = ((4 * m : Nat) : ℚ) * 2 ^ (q - 2) := by
    rw [zpow_sub₀ two_ne_zero]
    push_cast
    ring
  have hlow : ((Rounding.of m q).low : ℚ) < (4 * m : Nat) := by
    have : (Rounding.of m q).low < 4 * m := by
      unfold Rounding.of
      simp only
      split <;> omega
    exact_mod_cast this
  have hhigh : ((4 * m : Nat) : ℚ) < (Rounding.of m q).high := by
    have : 4 * m < (Rounding.of m q).high := by
      unfold Rounding.of
      simp only
      omega
    exact_mod_cast this
  rw [hquarters]
  have hbelow := mul_lt_mul_of_pos_right hlow hunit
  have habove := mul_lt_mul_of_pos_right hhigh hunit
  exact ⟨hbelow.le, habove.le, fun _ => ⟨hbelow, habove⟩⟩

end Rounding

/-- The search stops in the interval of the double. -/
theorem holds_shortest {m : Nat} (hm : 0 < m) (q : Int) :
    (Rounding.of m q).Holds q (shortest m q).value := by
  unfold shortest
  simp only
  rw [Digits.value_strip]
  cases hhit : (List.range 17).findSome? fun i : Nat =>
    (Rounding.of m q).onGrid
      (decimalScale (m * power 2 q.toNat) (power 2 (-q).toNat) - (i + 1)) with
  | none =>
    rw [Option.getD_none, value_expansion]
    exact Rounding.holds_self hm q
  | some d =>
    obtain ⟨i, -, hgrid⟩ := List.exists_of_findSome?_eq_some hhit
    exact Rounding.holds_of_onGrid rfl rfl hgrid

/-! ## Reading back -/

section Nearest

variable {k m num den : Nat}

theorem zpow_sub_two (q : Int) : (2 : ℚ) ^ (q - 2) = 2 ^ q / 4 := by
  rw [zpow_sub₀ two_ne_zero]
  norm_num

/-- A number in the interval of a double is nearest to the mantissa, in units of the last bit. -/
theorem isNearest_of_holds {q : Int} {x : ℚ} (h : (Rounding.of m q).Holds q x) :
    IsNearest (x / 2 ^ q) m := by
  obtain ⟨hlow, hhigh, hinner⟩ := h
  have hunit : (0 : ℚ) < 2 ^ q := by positivity
  have hhighEq : ((Rounding.of m q).high : ℚ) = 4 * m + 2 := by
    unfold Rounding.of
    push_cast
    rfl
  have hlowGe : (4 * m - 2 : ℚ) ≤ (Rounding.of m q).low := by
    have : 4 * m ≤ (Rounding.of m q).low + 2 := by
      unfold Rounding.of
      simp only
      split <;> omega
    have hcast : ((4 * m : Nat) : ℚ) ≤ ((Rounding.of m q).low + 2 : Nat) := by exact_mod_cast this
    push_cast at hcast
    linarith
  rw [zpow_sub_two] at hlow hhigh hinner
  rw [hhighEq] at hhigh hinner
  refine ⟨?_, fun htie => ?_⟩
  · have hlow' : (m - 1 / 2 : ℚ) ≤ x / 2 ^ q := by
      rw [le_div_iff₀ hunit]
      nlinarith
    have hhigh' : (x / 2 ^ q : ℚ) ≤ m + 1 / 2 := by
      rw [div_le_iff₀ hunit]
      linarith
    rw [abs_le]
    constructor <;> linarith
  · by_contra hodd
    have hopen : (Rounding.of m q).closed = false := by
      unfold Rounding.of
      simp only
      exact decide_eq_false hodd
    obtain ⟨hbelow, habove⟩ := hinner hopen
    have hbelow' : (m - 1 / 2 : ℚ) < x / 2 ^ q := by
      rw [lt_div_iff₀ hunit]
      nlinarith
    have habove' : (x / 2 ^ q : ℚ) < m + 1 / 2 := by
      rw [div_lt_iff₀ hunit]
      linarith
    rcases abs_eq (by norm_num) |>.mp htie with htie | htie <;> linarith

/-- A number in the interval of a double has the double for its nearest one. -/
theorem nearestBits_of_holds (hden : 0 < den) (hpacked : IsPacked k m) (hm : 0 < m)
    (h : (Rounding.of m (leastExponent + k)).Holds (leastExponent + k) (num / den)) :
    nearestBits num den = k * 2 ^ 52 + m := by
  apply nearestBits_eq_of_isNearest hden hpacked hm (isNearest_of_holds h)
  intro hpower hkpos
  have hlow := h.low
  have hnarrow : ((Rounding.of m (leastExponent + k)).low : ℚ) = 2 ^ 54 - 1 := by
    rw [hpower, Rounding.low_of_narrow (by omega)]
    norm_num
  rw [hnarrow, zpow_sub_two] at hlow
  linarith

/-- The shortest decimal of a double reads back as the double. -/
theorem nearestBits_shortest (hden : 0 < den) (hpacked : IsPacked k m) (hm : 0 < m)
    (hvalue : (num / den : ℚ) = (shortest m (leastExponent + k)).value) :
    nearestBits num den = k * 2 ^ 52 + m := by
  refine nearestBits_of_holds hden hpacked hm ?_
  rw [hvalue]
  exact holds_shortest hm _

end Nearest

end NodeProbe.Decimal
