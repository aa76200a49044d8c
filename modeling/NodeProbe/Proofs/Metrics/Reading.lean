import NodeProbe.Metrics.Registry
import NodeProbe.Proofs.Decimal.Operations

/-!
# What a series reads

What a series has been given is in two parts: what was reported, and what is pending. A collection
joins the two, and nothing is counted twice or lost (`Series.Keeps.collect`). A counter is a double,
so it counts exactly up to `2 ^ 53`; beyond, it stays at least there (`Counts`). A histogram counts
with naturals, and each value that is a number lies in one bucket (`Distribution.LiesIn`).
-/

namespace NodeProbe.Metrics

open Decimal

/-! ## Counters -/

/-- The double is a sum of so many ones. -/
inductive SumsOnes : Nat → Float → Prop
  | one : SumsOnes 1 1
  | add {a b : Nat} {x y : Float} : SumsOnes a x → SumsOnes b y → SumsOnes (a + b) (x + y)

/-- The double counts so many: it is the sum of that many ones, so it is exact up to `2 ^ 53`, and
beyond it stays at least there. It is not above the limit. -/
def Counts (limit : ℚ) (n : Nat) (x : Float) : Prop :=
  SumsOnes n x ∧
    ∃ y, rational? x = some y ∧ y ≤ limit ∧ (n ≤ 2 ^ 53 → y = n) ∧ (2 ^ 53 ≤ n → 2 ^ 53 ≤ y)

/-- What is pending is not above this: adding one does not change it any more. -/
def pendingLimit : ℚ := 2 ^ 53

/-- What is reported is not above this: adding what is pending does not change it any more. -/
def reportedLimit : ℚ := 2 ^ 107

theorem pendingLimit_le_reportedLimit : pendingLimit ≤ reportedLimit := by
  norm_num [pendingLimit, reportedLimit]

theorem reportedLimit_add_le_greatest : reportedLimit + pendingLimit ≤ greatest := by
  decide +kernel

theorem rounded_reportedLimit_add : rounded (reportedLimit + pendingLimit) = reportedLimit := by
  decide +kernel

theorem rounded_pendingLimit_add : rounded (pendingLimit + 1) = pendingLimit := by
  decide +kernel

namespace Counts

variable {limit limit' limit'' : ℚ} {a b : Nat} {x y : Float}

theorem one : Counts 1 1 1 := by
  have hone : rational? 1 = some 1 := by decide +kernel
  exact ⟨.one, 1, hone, le_rfl, fun _ => Nat.cast_one.symm, fun h => absurd h (by norm_num)⟩

theorem mono (h : Counts limit a x) (hlimit : limit ≤ limit') : Counts limit' a x := by
  obtain ⟨hones, y, hx, hy, hexact, hlarge⟩ := h
  exact ⟨hones, y, hx, hy.trans hlimit, hexact, hlarge⟩

theorem exists_pos (h : Counts limit a x) (ha : 0 < a) : ∃ y, rational? x = some y ∧ 0 < y ∧
    y ≤ limit ∧ (a ≤ 2 ^ 53 → y = a) ∧ (2 ^ 53 ≤ a → 2 ^ 53 ≤ y) := by
  obtain ⟨-, y, hx, hy, hexact, hlarge⟩ := h
  refine ⟨y, hx, ?_, hy, hexact, hlarge⟩
  rcases le_total a (2 ^ 53) with hle | hle
  · rw [hexact hle]
    exact_mod_cast ha
  · exact lt_of_lt_of_le (by norm_num) (hlarge hle)

/-- A sum counts what both have counted. -/
theorem add (h : Counts limit a x) (h' : Counts limit' b y) (ha : 0 < a) (hb : 0 < b)
    (hgreatest : limit + limit' ≤ greatest) (hrounded : rounded (limit + limit') ≤ limit'') :
    Counts limit'' (a + b) (x + y) := by
  obtain ⟨p, hx, hp, hple, hpexact, hplarge⟩ := h.exists_pos ha
  obtain ⟨q, hy, hq, hqle, hqexact, hqlarge⟩ := h'.exists_pos hb
  have hle : p + q ≤ limit + limit' := add_le_add hple hqle
  refine ⟨.add h.1 h'.1, rounded (p + q), rational?_add hx hy hp hq (hle.trans hgreatest),
    (rounded_mono hle).trans hrounded, fun hsmall => ?_, fun hlarge => ?_⟩
  · rw [hpexact (by omega), hqexact (by omega), ← Nat.cast_add, rounded_natCast hsmall]
  · have hsum : (2 ^ 53 : Nat) ≤ p + q := by
      push_cast
      by_cases ha' : 2 ^ 53 ≤ a
      · linarith [hplarge ha']
      by_cases hb' : 2 ^ 53 ≤ b
      · linarith [hqlarge hb']
      rw [hpexact (by omega), hqexact (by omega)]
      exact_mod_cast hlarge
    have hmono := rounded_mono hsum
    rw [rounded_natCast le_rfl] at hmono
    exact_mod_cast hmono

end Counts

/-! ## Histograms -/

namespace Distribution

variable {boundaries : List Float} {v : Float} {vs ws : List Float} {i : Nat}

/-- A value lies in a bucket if it is above the boundaries before it and not above its own. The last
bucket has no boundary. -/
def LiesIn (boundaries : List Float) (v : Float) (i : Nat) : Prop :=
  i ≤ boundaries.length ∧ (∀ b ∈ boundaries.take i, b < v) ∧ ∀ b ∈ boundaries[i]?, v ≤ b

instance (boundaries : List Float) (v : Float) (i : Nat) : Decidable (LiesIn boundaries v i) :=
  inferInstanceAs (Decidable (_ ∧ _ ∧ _))

/-- The values that each bucket counts. -/
def tally (boundaries : List Float) (vs : List Float) : List Nat :=
  (List.range (boundaries.length + 1)).map fun i => vs.countP (bucketOf boundaries · = i)

theorem bucketOf_lt (boundaries : List Float) (v : Float) :
    bucketOf boundaries v < boundaries.length + 1 :=
  Nat.lt_succ_of_le List.findIdx_le_length

/-- A number lies in the bucket that counts it, and in no other one. -/
theorem bucketOf_eq_iff {y : ℚ} (hv : rational? v = some y)
    (hboundaries : ∀ b ∈ boundaries, (rational? b).isSome) :
    bucketOf boundaries v = i ↔ LiesIn boundaries v i := by
  have habove (b : Float) (hb : b ∈ boundaries) : b < v ↔ decide (v ≤ b) = false := by
    obtain ⟨z, hz⟩ := Option.isSome_iff_exists.mp (hboundaries b hb)
    rw [decide_eq_false_iff_not, not_le_iff_lt hv hz]
  unfold bucketOf LiesIn
  rcases lt_trichotomy i boundaries.length with hlt | rfl | hgt
  · rw [List.findIdx_eq hlt, decide_eq_true_iff, List.getElem?_eq_getElem hlt]
    constructor
    · rintro ⟨hle, hbefore⟩
      refine ⟨hlt.le, fun b hb => ?_, fun b hb => ?_⟩
      · obtain ⟨j, hj, rfl⟩ := List.mem_take_iff_getElem.mp hb
        exact (habove _ (List.getElem_mem _)).mpr (hbefore j (by omega))
      · rwa [← Option.mem_some.mp hb]
    · rintro ⟨-, hbefore, hle⟩
      refine ⟨hle _ rfl, fun j hj => (habove _ (List.getElem_mem _)).mp (hbefore _ ?_)⟩
      exact List.mem_take_iff_getElem.mpr ⟨j, by omega, rfl⟩
  · rw [List.findIdx_eq_length, List.take_length, List.getElem?_eq_none le_rfl]
    constructor
    · exact fun h => ⟨le_rfl, fun b hb => (habove b hb).mpr (h b hb), nofun⟩
    · exact fun ⟨_, h, _⟩ b hb => (habove b hb).mp (h b hb)
  · exact iff_of_false (List.findIdx_le_length.trans_lt hgt).ne fun h => hgt.not_ge h.1

theorem tally_concat (boundaries vs : List Float) (v : Float) :
    (tally boundaries vs).modify (bucketOf boundaries v) (· + 1) =
      tally boundaries (vs ++ [v]) := by
  refine List.ext_getElem (by simp [tally]) fun i _ _ => ?_
  rw [List.getElem_modify]
  by_cases h : bucketOf boundaries v = i
  · simp [tally, h]
  · simp [tally, h]

theorem tally_append (boundaries vs ws : List Float) :
    (tally boundaries vs).zipWith (· + ·) (tally boundaries ws) = tally boundaries (vs ++ ws) := by
  simp [tally, List.zipWith_map, List.zipWith_self]

theorem sum_modify {l : List Nat} (h : i < l.length) :
    (l.modify i (· + 1)).sum = l.sum + 1 := by
  induction l generalizing i with
  | nil => cases h
  | cons n l ih =>
    cases i with
    | zero => simp [Nat.add_right_comm]
    | succ i => simp [ih (Nat.lt_of_succ_lt_succ h), Nat.add_assoc]

/-- Every value is in one bucket. -/
theorem sum_tally (boundaries vs : List Float) : (tally boundaries vs).sum = vs.length := by
  induction vs using List.reverseRecOn with
  | nil => simp [tally]
  | append_singleton vs v ih =>
    rw [← tally_concat, sum_modify (by simpa [tally] using bucketOf_lt boundaries v), ih,
      List.length_append, List.length_singleton]

end Distribution

/-! ## Readings -/

namespace Kind

/-- The values that the instrument is given: a counter goes up by one at a time, and a histogram
gets numbers that are not below zero. -/
def Takes : Kind → Float → Prop
  | counter, v => v = 1
  | histogram _, v => ∃ y, rational? v = some y ∧ 0 ≤ y

/-- The reading is the one of the values. -/
inductive Reads (limit : ℚ) : Kind → Reading → List Float → Prop
  | total {x : Float} {vs : List Float} : Counts limit vs.length x →
    Reads limit counter (.total x) vs
  | distribution {boundaries vs : List Float} {d : Distribution} : d.count = vs.length →
    d.buckets = Distribution.tally boundaries vs →
    Reads limit (histogram boundaries) (.distribution d) vs

variable {kind : Kind} {r r' : Reading} {v : Float} {vs ws : List Float} {limit : ℚ}

theorem Takes.not_lt_zero (hv : kind.Takes v) : ¬ v < 0 := by
  cases kind with
  | counter =>
    obtain rfl : v = 1 := hv
    have hone : rational? 1 = some 1 := by decide +kernel
    rw [lt_zero_iff_of_rational? hone]
    norm_num
  | histogram boundaries =>
    obtain ⟨y, hy, hnonneg⟩ := hv
    rw [lt_zero_iff_of_rational? hy]
    exact not_lt.mpr hnonneg

namespace Reads

theorem mono (h : Reads pendingLimit kind r vs) : Reads reportedLimit kind r vs := by
  cases h with
  | total h => exact .total (h.mono pendingLimit_le_reportedLimit)
  | distribution hcount hbuckets => exact .distribution hcount hbuckets

theorem recordDistribution {boundaries : List Float} {d : Distribution}
    (hcount : d.count = vs.length) (hbuckets : d.buckets = Distribution.tally boundaries vs)
    (hv : (histogram boundaries).Takes v) :
    Reads limit (histogram boundaries) (.distribution (d.record boundaries v)) (vs ++ [v]) := by
  obtain ⟨y, hy, -⟩ := hv
  rw [Distribution.record, if_pos (beq_self_of_rational? hy)]
  refine .distribution ?_ ?_
  · rw [List.length_append, List.length_singleton, hcount]
  · rw [← Distribution.tally_concat, hbuckets]

/-- The first value. -/
theorem first (hv : kind.Takes v) : Reads pendingLimit kind (kind.record kind.zero v) [v] := by
  cases kind with
  | counter =>
    obtain rfl : v = 1 := hv
    exact .total (Counts.one.mono (by norm_num [pendingLimit]))
  | histogram boundaries =>
    have htally : (Distribution.empty boundaries).buckets = Distribution.tally boundaries [] := by
      simp [Distribution.tally, Distribution.empty]
    exact recordDistribution rfl htally hv

/-- One more value. -/
theorem record (h : Reads pendingLimit kind r vs) (hne : vs ≠ []) (hv : kind.Takes v) :
    Reads pendingLimit kind (kind.record r v) (vs ++ [v]) := by
  cases h with
  | total h =>
    obtain rfl : v = 1 := hv
    refine .total ?_
    rw [List.length_append]
    exact h.add Counts.one (List.length_pos_of_ne_nil hne) one_pos
      (by decide +kernel) rounded_pendingLimit_add.le
  | distribution hcount hbuckets => exact recordDistribution hcount hbuckets hv

/-- What is reported and what is pending. -/
theorem join (h : Reads reportedLimit kind r vs) (h' : Reads pendingLimit kind r' ws)
    (hne : vs ≠ []) (hne' : ws ≠ []) : Reads reportedLimit kind (r.join r') (vs ++ ws) := by
  cases h with
  | total h =>
    obtain ⟨h'⟩ := h'
    refine .total ?_
    rw [List.length_append]
    exact h.add h' (List.length_pos_of_ne_nil hne) (List.length_pos_of_ne_nil hne')
      reportedLimit_add_le_greatest rounded_reportedLimit_add.le
  | distribution hcount hbuckets =>
    obtain ⟨⟩ | ⟨hcount', hbuckets'⟩ := h'
    refine .distribution ?_ ?_
    · rw [List.length_append, ← hcount, ← hcount']
      rfl
    · rw [← Distribution.tally_append, ← hbuckets, ← hbuckets']
      rfl

end Reads

/-- There is a reading if there are values, and then it is the one of the values. -/
def ReadsSome (limit : ℚ) (kind : Kind) : Option Reading → List Float → Prop
  | none, vs => vs = []
  | some r, vs => vs ≠ [] ∧ kind.Reads limit r vs

end Kind

/-! ## Series -/

/-- The values of a series are those that are reported and those that are pending. -/
def Series.Keeps (kind : Kind) (s : Series) (vs : List Float) : Prop :=
  ∃ old new, vs = old ++ new ∧ vs ≠ [] ∧ kind.ReadsSome reportedLimit s.reported old ∧
    kind.ReadsSome pendingLimit s.pending new

/-- Behind a collection all values are reported and nothing is pending. -/
theorem Series.Keeps.collect {kind : Kind} {s : Series} {vs : List Float} (h : s.Keeps kind vs) :
    ∃ r, s.collect.reported = some r ∧ s.collect.pending = none ∧
      kind.Reads reportedLimit r vs := by
  obtain ⟨old, new, rfl, hne, hold, hnew⟩ := h
  unfold Series.collect
  cases hreported : s.reported with
  | none =>
    rw [hreported] at hold
    obtain rfl : old = [] := hold
    cases hpending : s.pending with
    | none =>
      rw [hpending] at hnew
      obtain rfl : new = [] := hnew
      exact absurd rfl hne
    | some r =>
      rw [hpending] at hnew
      exact ⟨r, rfl, rfl, hnew.2.mono⟩
  | some r =>
    rw [hreported] at hold
    cases hpending : s.pending with
    | none =>
      rw [hpending] at hnew
      obtain rfl : new = [] := hnew
      exact ⟨r, hreported, hpending, by rw [List.append_nil]; exact hold.2⟩
    | some r' =>
      rw [hpending] at hnew
      exact ⟨r.join r', rfl, rfl, hold.2.join hnew.2 hold.1 hnew.1⟩

/-- There is a series if there are values. -/
def Keeps (kind : Kind) : Option Series → List Float → Prop
  | none, vs => vs = []
  | some s, vs => s.Keeps kind vs

namespace Keeps

variable {kind : Kind} {cell : Option Series} {v : Float} {vs : List Float}

/-- Recording a value adds it to what is pending. -/
theorem record (labels : Labels) (h : Keeps kind cell vs) (hv : kind.Takes v) :
    Keeps kind (some ((cell.getD ⟨labels, none, none⟩).record kind v)) (vs ++ [v]) := by
  have hne : vs ++ [v] ≠ [] := by simp
  cases cell with
  | none =>
    obtain rfl : vs = [] := h
    exact ⟨[], [v], rfl, hne, rfl, by simp, .first hv⟩
  | some s =>
    obtain ⟨old, new, rfl, -, hold, hnew⟩ := h
    refine ⟨old, new ++ [v], List.append_assoc .., hne, hold, by simp, ?_⟩
    show kind.Reads pendingLimit (kind.record (s.pending.getD kind.zero) v) (new ++ [v])
    cases hpending : s.pending with
    | none =>
      rw [hpending] at hnew
      obtain rfl : new = [] := hnew
      exact .first hv
    | some r =>
      rw [hpending] at hnew
      exact hnew.2.record hnew.1 hv

/-- What is reported behind a collection are all values. -/
theorem reading (h : Keeps kind cell vs) :
    kind.ReadsSome reportedLimit ((cell.map (·.collect)).bind (·.reported)) vs := by
  cases cell with
  | none => exact h
  | some s =>
    obtain ⟨r, hreported, -, hreads⟩ := Series.Keeps.collect h
    obtain ⟨-, -, -, hne, -⟩ := h
    show kind.ReadsSome reportedLimit s.collect.reported vs
    rw [hreported]
    exact ⟨hne, hreads⟩

/-- Collecting leaves the values as they are. -/
theorem collect (h : Keeps kind cell vs) : Keeps kind (cell.map (·.collect)) vs := by
  cases cell with
  | none => exact h
  | some s =>
    obtain ⟨r, hreported, hpending, hreads⟩ := Series.Keeps.collect h
    obtain ⟨-, -, -, hne, -⟩ := h
    refine ⟨vs, [], (List.append_nil vs).symm, hne, ?_, ?_⟩
    · rw [hreported]
      exact ⟨hne, hreads⟩
    · rw [hpending]
      rfl

end Keeps

end NodeProbe.Metrics
