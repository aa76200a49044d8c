import NodeProbe.Proofs.Course.Basic

/-!
# Calls at their own rhythm

What it means for a history of ticks that a call keeps its cadence (`Paced`): at each tick it is
made if it is due and free, it is skipped if it is due and busy, and otherwise neither happens; it
is due when the number of ticks since it was last made has reached its cadence. Three things follow
without a look at the scheduler: two calls are at least the cadence apart (`Paced.apart`), a call
that was skipped is made as soon as it is free (`Paced.resumes`), and a call that is never busy when
it is due is made exactly at the multiples of its cadence (`Paced.regular`).

A history has the last tick in front.
-/

namespace NodeProbe

open Scheduler

/-- The number of the last tick at which a call was made, or zero if it was not made. -/
def lastFired (m : Method) : List Beat → Nat
  | [] => 0
  | b :: earlier => if b.effects.any (Effect.calls m) then b.number else lastFired m earlier

/-- Behind these ticks the call of an entry is due at the tick of this number. -/
def IsDueAt (spec : MethodSpec) (number : Nat) (earlier : List Beat) : Prop :=
  spec.cadence ≤ number - lastFired spec.method earlier

instance (spec : MethodSpec) (number : Nat) (earlier : List Beat) :
    Decidable (IsDueAt spec number earlier) :=
  inferInstanceAs (Decidable (_ ≤ _))

/-- What a tick behind these ticks does about an entry. -/
structure Beat.IsPaced (spec : MethodSpec) (b : Beat) (earlier : List Beat) : Prop where
  number_eq : b.number = earlier.length + 1
  fires_iff : b.Fires spec.method ↔ IsDueAt spec b.number earlier ∧ spec.method ∉ b.busy
  skips_iff : b.Skips spec.method ↔ IsDueAt spec b.number earlier ∧ spec.method ∈ b.busy

/-- At every tick the call of an entry is made if it is due and free, and skipped if it is due and
busy. -/
def Paced (spec : MethodSpec) (beats : List Beat) : Prop :=
  ∀ later b earlier, beats = later ++ b :: earlier → b.IsPaced spec earlier

theorem Beat.fires_iff_any {b : Beat} {m : Method} :
    b.Fires m ↔ b.effects.any (Effect.calls m) = true := by
  simp [Fires, Effect.calls_eq_true_iff]

theorem Beat.countP_calls_pos {b : Beat} {m : Method} :
    0 < b.effects.countP (Effect.calls m) ↔ b.Fires m := by
  simp [List.countP_pos_iff, Effect.calls_eq_true_iff, Fires]

theorem Beat.countP_skips_pos {b : Beat} {m : Method} :
    0 < b.effects.countP (Effect.records m .skip) ↔ b.Skips m := by
  simp [List.countP_pos_iff, Effect.records_skip_eq_true_iff, Skips]

section LastFired

variable {m : Method} {b : Beat} {earlier : List Beat}

theorem lastFired_of_fires (h : b.Fires m) : lastFired m (b :: earlier) = b.number :=
  if_pos (Beat.fires_iff_any.mp h)

theorem lastFired_of_not_fires (h : ¬ b.Fires m) :
    lastFired m (b :: earlier) = lastFired m earlier :=
  if_neg fun hany => h (Beat.fires_iff_any.mpr hany)

/-- Ticks at which the call is not made do not matter. -/
theorem lastFired_append {later : List Beat} (h : ∀ b ∈ later, ¬ b.Fires m) :
    lastFired m (later ++ earlier) = lastFired m earlier := by
  induction later with
  | nil => rfl
  | cons b later ih =>
    obtain ⟨hb, hlater⟩ := List.forall_mem_cons.mp h
    rw [List.cons_append, lastFired_of_not_fires hb, ih hlater]

end LastFired

namespace Paced

variable {spec : MethodSpec} {b b' : Beat} {beats later middle earlier : List Beat}

theorem nil : Paced spec [] := by
  intro later b earlier h
  simp at h

theorem cons (h : Paced spec earlier) (hb : b.IsPaced spec earlier) :
    Paced spec (b :: earlier) := by
  intro later b' earlier' heq
  cases later with
  | nil =>
    cases heq
    exact hb
  | cons first later =>
    cases heq
    exact h later b' earlier' rfl

theorem tail (h : Paced spec (later ++ earlier)) : Paced spec earlier := by
  intro later' b' earlier' heq
  exact h (later ++ later') b' earlier' (by rw [heq, List.append_assoc])

theorem of_cons (h : Paced spec (b :: earlier)) : Paced spec earlier := by
  have happend : Paced spec ([b] ++ earlier) := h
  exact happend.tail

theorem head (h : Paced spec (b :: earlier)) : b.IsPaced spec earlier :=
  h [] b earlier rfl

/-- The ticks are numbered from one on. -/
theorem number_le (h : Paced spec beats) (hb : b ∈ beats) : b.number ≤ beats.length := by
  obtain ⟨later, earlier, rfl⟩ := List.append_of_mem hb
  rw [(h later b earlier rfl).number_eq, List.length_append, List.length_cons]
  omega

theorem exists_number_eq (h : Paced spec beats) {n : Nat} (hpos : 0 < n) (hn : n ≤ beats.length) :
    ∃ b ∈ beats, b.number = n := by
  induction beats with
  | nil =>
    rw [List.length_nil] at hn
    omega
  | cons b earlier ih =>
    rw [List.length_cons] at hn
    rcases Nat.lt_or_eq_of_le hn with hn | rfl
    · obtain ⟨b', hb', hnumber⟩ := ih h.of_cons (by omega)
      exact ⟨b', List.mem_cons_of_mem _ hb', hnumber⟩
    · exact ⟨b, List.mem_cons_self, h.head.number_eq⟩

theorem lastFired_le (h : Paced spec beats) : lastFired spec.method beats ≤ beats.length := by
  induction beats with
  | nil => exact Nat.zero_le _
  | cons b earlier ih =>
    rw [List.length_cons]
    by_cases hfires : b.Fires spec.method
    · exact Nat.le_of_eq ((lastFired_of_fires hfires).trans h.head.number_eq)
    · rw [lastFired_of_not_fires hfires]
      have := ih h.of_cons
      omega

/-- No call was made behind the last one. -/
theorem number_le_lastFired (h : Paced spec beats) (hb : b ∈ beats) (hfires : b.Fires spec.method) :
    b.number ≤ lastFired spec.method beats := by
  induction beats with
  | nil => simp at hb
  | cons b' earlier ih =>
    by_cases hfires' : b'.Fires spec.method
    · rw [lastFired_of_fires hfires', h.head.number_eq]
      exact h.number_le hb
    · rw [lastFired_of_not_fires hfires']
      rcases List.mem_cons.mp hb with rfl | hb
      · exact absurd hfires hfires'
      · exact ih h.of_cons hb

/-! ## What follows -/

/-- Two calls are at least the cadence apart. -/
theorem apart (h : Paced spec beats) (heq : beats = later ++ b :: earlier) (hb' : b' ∈ earlier)
    (hfires : b.Fires spec.method) (hfires' : b'.Fires spec.method) :
    b'.number + spec.cadence ≤ b.number := by
  have hdue := ((h later b earlier heq).fires_iff.mp hfires).1
  have hlast : b'.number ≤ lastFired spec.method earlier := by
    subst heq
    exact h.tail.of_cons.number_le_lastFired hb' hfires'
  have := spec.cadence_pos
  unfold IsDueAt at hdue
  omega

/-- A call that was skipped is made at the first later tick at which it is free. -/
theorem resumes (h : Paced spec beats) (heq : beats = later ++ b :: (middle ++ b' :: earlier))
    (hskips : b'.Skips spec.method) (hbusy : ∀ x ∈ middle, spec.method ∈ x.busy)
    (hfree : spec.method ∉ b.busy) : b.Fires spec.method := by
  subst heq
  have hmiddle := h.tail.of_cons
  have hskipped := (hmiddle.tail).head
  -- From the skip on the call is busy, so it is not made, and it stays due.
  have hnone : ∀ x ∈ middle ++ [b'], ¬ x.Fires spec.method := by
    intro x hx hfires
    rcases List.mem_append.mp hx with hx | hx
    · obtain ⟨front, back, rfl⟩ := List.append_of_mem hx
      exact ((hmiddle front x (back ++ b' :: earlier) (by simp)).fires_iff.mp hfires).2
        (hbusy x hx)
    · rw [List.mem_singleton] at hx
      subst hx
      exact (hskipped.fires_iff.mp hfires).2 (hskipped.skips_iff.mp hskips).2
  have hlast : lastFired spec.method (middle ++ b' :: earlier) = lastFired spec.method earlier := by
    rw [List.append_cons]
    exact lastFired_append hnone
  refine (h.tail.head.fires_iff).mpr ⟨?_, hfree⟩
  have hdue := (hskipped.skips_iff.mp hskips).1
  unfold IsDueAt at hdue ⊢
  rw [hskipped.number_eq] at hdue
  rw [hlast, h.tail.head.number_eq, List.length_append, List.length_cons]
  omega

/-- Between two multiples of the cadence the call is not due again. -/
theorem isDueAt_iff_dvd {n : Nat}
    (hlast : lastFired spec.method earlier = spec.cadence * (n / spec.cadence)) :
    IsDueAt spec (n + 1) earlier ↔ spec.cadence ∣ n + 1 := by
  obtain ⟨j, hj⟩ := Nat.exists_eq_add_of_lt spec.cadence_pos
  have hmod := Nat.div_add_mod n spec.cadence
  have hlt := Nat.mod_lt n spec.cadence_pos
  rw [Nat.zero_add] at hj
  rw [IsDueAt, hlast, Nat.dvd_iff_mod_eq_zero]
  rw [hj] at hmod hlt ⊢
  rw [Nat.succ_mod_succ_eq_zero_iff]
  omega

/-- The call has never been busy when it was due. -/
def NeverBusy (spec : MethodSpec) (beats : List Beat) : Prop :=
  ∀ later b earlier, beats = later ++ b :: earlier → IsDueAt spec b.number earlier →
    spec.method ∉ b.busy

theorem lastFired_eq_of_neverBusy (h : Paced spec beats) (hfree : NeverBusy spec beats) :
    lastFired spec.method beats = spec.cadence * (beats.length / spec.cadence) := by
  induction beats with
  | nil => simp [lastFired]
  | cons b earlier ih =>
    have hlast := ih h.of_cons fun later b' earlier' heq =>
      hfree (b :: later) b' earlier' (by rw [heq, List.cons_append])
    have hdue := isDueAt_iff_dvd hlast
    rw [← h.head.number_eq] at hdue
    rw [List.length_cons]
    by_cases hdvd : spec.cadence ∣ b.number
    · have hfires := h.head.fires_iff.mpr
        ⟨hdue.mpr hdvd, hfree [] b earlier rfl (hdue.mpr hdvd)⟩
      rw [lastFired_of_fires hfires, ← h.head.number_eq, Nat.mul_div_cancel' hdvd]
    · have hfires : ¬ b.Fires spec.method := fun hfires =>
        hdvd (hdue.mp (h.head.fires_iff.mp hfires).1)
      rw [lastFired_of_not_fires hfires, hlast, Nat.succ_div_of_not_dvd]
      rwa [← h.head.number_eq]

/-- A call that is never busy when it is due is made exactly at the multiples of its cadence. -/
theorem regular (h : Paced spec beats) (hfree : NeverBusy spec beats) (hb : b ∈ beats) :
    b.Fires spec.method ↔ spec.cadence ∣ b.number := by
  obtain ⟨later, earlier, rfl⟩ := List.append_of_mem hb
  have hearlier : NeverBusy spec earlier := fun later' b' earlier' heq =>
    hfree (later ++ b :: later') b' earlier' (by simp [heq])
  have hlast := h.tail.of_cons.lastFired_eq_of_neverBusy hearlier
  have hdue := isDueAt_iff_dvd hlast
  rw [← h.tail.head.number_eq] at hdue
  rw [h.tail.head.fires_iff, ← hdue]
  exact and_iff_left_of_imp (hfree later b earlier rfl)

end Paced

end NodeProbe
