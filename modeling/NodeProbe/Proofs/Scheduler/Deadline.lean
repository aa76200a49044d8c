import Mathlib.Data.Int.ConditionallyCompleteOrder
import Mathlib.Data.Set.Card
import Mathlib.Order.Interval.Finset.Nat
import NodeProbe.Proofs.Decimal.Exact
import NodeProbe.Scheduler.Basic

/-!
# Deadlines

The deadlines of a loop are the multiples of its interval, counted from its start (`deadlineAt`). On
times that are whole numbers up to `2 ^ 53` the sums and differences of the clock are exact
(`sum_intCast`, `difference_intCast`), so the deadline behind one that has passed is the first one
that has not, and those in between are counted (`exists_nextDeadline_eq`). A delay is never shorter
than zero (`delayOf_eq_max`).
-/

namespace NodeProbe

/-! ## Times and delays -/

namespace Time

theorem delayOf_eq_max {ms : Float} {length : ℚ} (h : Decimal.rational? ms = some length) :
    delayOf ms = some (max length 0) := by
  have hdelay : delayOf ms = (Decimal.rational? ms).map fun d => if d < 0 then 0 else d := by
    unfold delayOf
    cases hparts : Decimal.Binary.ofFloat ms with
    | finite negative m q => rfl
    | infinite negative =>
      rw [Decimal.rational?, hparts] at h
      cases h
    | nan =>
      rw [Decimal.rational?, hparts] at h
      cases h
  rw [hdelay, h, Option.map_some, Option.some_inj]
  by_cases hneg : length < 0
  · rw [if_pos hneg, max_eq_right hneg.le]
  · rw [if_neg hneg, max_eq_left (not_lt.mp hneg)]

theorem sum_intCast {s t : Int} (h : |s + t| ≤ 2 ^ 53) : sum s t = (s + t : Int) := by
  rw [sum, ← Int.cast_add, Decimal.rounded_intCast h]

theorem difference_intCast {s t : Int} (h : |s - t| ≤ 2 ^ 53) :
    difference s t = (s - t : Int) := by
  rw [difference, ← Int.cast_sub, Decimal.rounded_intCast h]

end Time

namespace Scheduler

/-- The deadline with a number: so many whole intervals after the start. -/
def deadlineAt (start length : Int) (n : Nat) : Int :=
  start + n * length

variable {start length now : Int} {n : Nat}

theorem deadlineAt_add (start length : Int) (n k : Nat) :
    deadlineAt start length (n + k) = deadlineAt start length n + k * length := by
  unfold deadlineAt
  push_cast
  ring

theorem strictMono_deadlineAt (start : Int) (hpos : 0 < length) :
    StrictMono (deadlineAt start length) := by
  intro i j hij
  have hproduct : (i : Int) * length < j * length := mul_lt_mul_of_pos_right (by omega) hpos
  unfold deadlineAt
  omega

/-- Every time behind a deadline lies between two deadlines that follow each other. -/
theorem exists_deadlineAt_le (hpos : 0 < length) (hpassed : deadlineAt start length n ≤ now) :
    ∃ k : Nat, (now - deadlineAt start length n) / length = k ∧
      deadlineAt start length (n + k) ≤ now ∧ now < deadlineAt start length (n + k + 1) := by
  obtain ⟨k, hk⟩ :=
    Int.eq_ofNat_of_zero_le (Int.ediv_nonneg (sub_nonneg.mpr hpassed) hpos.le)
  have hbelow := Int.ediv_mul_le (now - deadlineAt start length n) hpos.ne'
  have habove := Int.lt_ediv_add_one_mul_self (now - deadlineAt start length n) hpos
  rw [hk] at hbelow habove
  refine ⟨k, hk, ?_, ?_⟩
  · rw [deadlineAt_add]
    omega
  · rw [Nat.add_assoc, deadlineAt_add]
    push_cast
    omega

/-! ## The next deadline -/

section NextDeadline

variable {interval : Interval} {deadline : Int}

theorem deadlinesSince_eq (hlength : interval.length = length) (hpos : 0 < length)
    (hpassed : deadline ≤ now) (hspan : now - deadline + length ≤ 2 ^ 53) :
    deadlinesSince interval deadline now = (now - deadline) / length + 1 := by
  have hquotient := Int.ediv_nonneg (sub_nonneg.mpr hpassed) hpos.le
  have hquotient' := Int.ediv_le_self length (sub_nonneg.mpr hpassed)
  have hdifference : |now - deadline| ≤ 2 ^ 53 := by
    rw [abs_of_nonneg (by omega)]
    omega
  have hsum : |(now - deadline) / length + 1| ≤ 2 ^ 53 := by
    rw [abs_of_nonneg (by omega)]
    omega
  rw [deadlinesSince, Time.difference_intCast hdifference, hlength,
    Decimal.floor_rounded_div (by omega) (by omega) hpos (by omega),
    ← Int.cast_one, Time.sum_intCast hsum, Rat.floor_intCast]

theorem nextDeadline_eq (hlength : interval.length = length) (hpos : 0 < length)
    (hpassed : deadline ≤ now) (hlow : -2 ^ 53 ≤ deadline) (hhigh : now + length ≤ 2 ^ 53)
    (hspan : now - deadline + length ≤ 2 ^ 53) :
    nextDeadline interval deadline now =
      (((deadline + ((now - deadline) / length + 1) * length : Int) : ℚ),
        (now - deadline) / length) := by
  have hsum : |deadline + length| ≤ 2 ^ 53 := by
    rw [abs_le]
    omega
  rw [nextDeadline, hlength, Time.sum_intCast hsum]
  simp only [Int.cast_le]
  split
  · rename_i hnext
    have hmissed : (now - (deadline + length)) / length + 1 = (now - deadline) / length := by
      rw [← Int.add_mul_ediv_right _ 1 hpos.ne']
      congr 1
      ring
    obtain ⟨missed, heq⟩ : ∃ missed, missed = (now - deadline) / length := ⟨_, rfl⟩
    have hnonneg : 0 ≤ missed := heq ▸ Int.ediv_nonneg (by omega) hpos.le
    have hproduct : missed * length ≤ now - deadline := heq ▸ Int.ediv_mul_le _ hpos.ne'
    have hproduct' : 0 ≤ missed * length := Int.mul_nonneg hnonneg hpos.le
    have habs : |missed * length| ≤ 2 ^ 53 := by
      rw [abs_of_nonneg hproduct']
      omega
    have habs' : |deadline + length + missed * length| ≤ 2 ^ 53 := by
      rw [abs_le]
      omega
    rw [deadlinesSince_eq hlength hpos hnext (by omega), hmissed, ← heq, ← Int.cast_mul,
      Decimal.rounded_intCast habs, Time.sum_intCast habs']
    congr 2
    ring
  · rename_i hnext
    have hzero : (now - deadline) / length = 0 := Int.ediv_eq_zero_of_lt (by omega) (by omega)
    rw [hzero]
    congr 2
    ring

/-- Behind a deadline that has passed the loop goes on to the first one that has not, and counts
those in between. -/
theorem exists_nextDeadline_eq (hlength : interval.length = length) (hpos : 0 < length)
    (hpassed : deadlineAt start length n ≤ now) (hlow : -2 ^ 53 ≤ start)
    (hhigh : now + length ≤ 2 ^ 53) (hspan : now - start + length ≤ 2 ^ 53) :
    ∃ k : Nat, nextDeadline interval (deadlineAt start length n) now =
        (((deadlineAt start length (n + k + 1) : Int) : ℚ), (k : Int)) ∧
      deadlineAt start length (n + k) ≤ now ∧ now < deadlineAt start length (n + k + 1) := by
  obtain ⟨k, hk, hbelow, habove⟩ := exists_deadlineAt_le hpos hpassed
  have hstart : start ≤ deadlineAt start length n := by
    have := Int.mul_nonneg (Int.natCast_nonneg n) hpos.le
    unfold deadlineAt
    omega
  have hnext : deadlineAt start length n + ((k : Int) + 1) * length =
      deadlineAt start length (n + k + 1) := by
    rw [Nat.add_assoc, deadlineAt_add]
    push_cast
    rfl
  refine ⟨k, ?_, hbelow, habove⟩
  rw [nextDeadline_eq hlength hpos hpassed (by omega) hhigh (by omega), hk, hnext]

end NextDeadline

/-! ## Deadlines that have passed -/

/-- The time is a deadline. -/
def IsDeadline (start length : Int) (time : ℚ) : Prop :=
  ∃ n, time = deadlineAt start length n

theorem isDeadline_deadlineAt (start length : Int) (n : Nat) :
    IsDeadline start length (deadlineAt start length n) :=
  ⟨n, rfl⟩

theorem isLeast_deadlineAt (hpos : 0 < length) (hbelow : deadlineAt start length n ≤ now)
    (habove : now < deadlineAt start length (n + 1)) :
    IsLeast {d | IsDeadline start length d ∧ now < d} (deadlineAt start length (n + 1) : ℚ) := by
  refine ⟨⟨isDeadline_deadlineAt _ _ _, by exact_mod_cast habove⟩, ?_⟩
  rintro d ⟨⟨j, rfl⟩, hlater⟩
  have hmono := strictMono_deadlineAt start hpos
  have hnj : n < j := hmono.lt_iff_lt.mp (hbelow.trans_lt (by exact_mod_cast hlater))
  exact_mod_cast hmono.monotone hnj

/-- The number of deadlines that have passed behind one of them. -/
theorem ncard_passed (hpos : 0 < length) {k : Nat}
    (hbelow : deadlineAt start length (n + k) ≤ now)
    (habove : now < deadlineAt start length (n + k + 1)) :
    {d | IsDeadline start length d ∧ (deadlineAt start length n : ℚ) < d ∧ d ≤ now}.ncard = k := by
  have hmono := strictMono_deadlineAt start hpos
  have himage : {d | IsDeadline start length d ∧ (deadlineAt start length n : ℚ) < d ∧ d ≤ now} =
      (fun j => (deadlineAt start length j : ℚ)) '' Finset.Ioc n (n + k) := by
    ext d
    simp only [Set.mem_ofPred_eq, Set.mem_image, Finset.coe_Ioc, Set.mem_Ioc]
    constructor
    · rintro ⟨⟨j, rfl⟩, hlow, hhigh⟩
      have hnj : n < j := hmono.lt_iff_lt.mp (by exact_mod_cast hlow)
      have hjk : j < n + k + 1 :=
        hmono.lt_iff_lt.mp (lt_of_le_of_lt (by exact_mod_cast hhigh) habove)
      exact ⟨j, ⟨hnj, Nat.le_of_lt_succ hjk⟩, rfl⟩
    · rintro ⟨j, ⟨hnj, hjk⟩, rfl⟩
      refine ⟨isDeadline_deadlineAt _ _ _, by exact_mod_cast hmono hnj, ?_⟩
      exact_mod_cast (hmono.monotone hjk).trans hbelow
  have hinjective : Function.Injective fun j => (deadlineAt start length j : ℚ) :=
    Int.cast_injective.comp hmono.injective
  rw [himage, Set.ncard_image_of_injective _ hinjective, Set.ncard_coe_finset, Nat.card_Ioc,
    Nat.add_sub_cancel_left]

end Scheduler

end NodeProbe
