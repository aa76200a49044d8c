import Mathlib.Tactic.Linarith
import NodeProbe.Time.Instant

/-!
# Instants read back from their texts

A day of an era lies in the year that `yearOfEra` finds (`yearStart_yearOfEra`), so the calendar
goes from a day to its date and back (`toDay_ofDay`). The parts of a text have a fixed width and are
read one after the other (`digits?_padded`); together they give the instant again (`ofText?_text`).
-/

namespace NodeProbe.Time

/-! ## The calendar -/

section Calendar

variable {day : Nat}

theorem yearOfEra_lt (h : day < eraDays) : yearOfEra day < 400 := by
  unfold eraDays at h
  unfold yearOfEra
  omega

/-- Within a century whose last year is the only one without its leap day, as many years have begun
as four-year spans tell, but for one. -/
theorem century_spec (century span year leaps : Nat) (hcentury : century ≤ 3)
    (hlow : 36524 * century ≤ day) (hhigh : day < 36524 * (century + 1))
    (hspan : 1460 * span ≤ day) (hspan' : day < 1460 * (span + 1))
    (hyear : 365 * year + span ≤ day + century) (hyear' : day + century < 365 * (year + 1) + span)
    (hleaps : 4 * leaps ≤ year) (hleaps' : year < 4 * (leaps + 1)) :
    100 * century ≤ year ∧ year < 100 * (century + 1) ∧ leaps ≤ span ∧ span ≤ leaps + 1 := by
  omega

/-- A day lies in its year. -/
theorem yearStart_yearOfEra (h : day < eraDays) :
    yearStart (yearOfEra day) ≤ day ∧ day ≤ yearStart (yearOfEra day) + 365 := by
  unfold eraDays at h
  rcases Nat.lt_or_ge day 146096 with hday | hday
  · have hyear : yearOfEra day = (day - day / 1460 + day / 36524) / 365 := by
      unfold yearOfEra
      rw [Nat.div_eq_of_lt hday, Nat.sub_zero]
    obtain ⟨hlow, hhigh, hleaps, hleaps'⟩ := century_spec (day / 36524) (day / 1460)
      (yearOfEra day) (yearOfEra day / 4) (by omega) (by omega) (Nat.lt_mul_div_succ day (by omega))
      (by omega) (Nat.lt_mul_div_succ day (by omega)) (by omega) (by omega) (by omega) (by omega)
    unfold yearStart
    omega
  · -- The last day of the era is the leap day of its last year.
    obtain rfl : day = 146096 := by omega
    decide

/-- The months of a year cover its days. -/
theorem monthStart_spec (day : Nat) (h : day ≤ 365) :
    monthStart ((5 * day + 2) / 153) ≤ day ∧ day < monthStart ((5 * day + 2) / 153) + 31 ∧
      (5 * day + 2) / 153 ≤ 11 := by
  unfold monthStart
  omega

end Calendar

/-- The parts of a date lie in their ranges. -/
structure Date.IsProper (d : Date) : Prop where
  month : 1 ≤ d.month ∧ d.month ≤ 12
  day : 1 ≤ d.day ∧ d.day ≤ 31

theorem toDay_ofDay (n : Int) : (Date.ofDay n).toDay = n ∧ (Date.ofDay n).IsProper := by
  obtain ⟨era, hera⟩ : ∃ era, era = (n + epochDay) / eraDays := ⟨_, rfl⟩
  obtain ⟨day, hday⟩ : ∃ day, day = ((n + epochDay) % eraDays).toNat := ⟨_, rfl⟩
  have hsplit : n = era * eraDays + day - epochDay := by
    rw [hera, hday]
    unfold eraDays epochDay
    omega
  have hlt : day < eraDays := by
    rw [hday]
    unfold eraDays epochDay
    omega
  obtain ⟨hstart, hstart'⟩ := yearStart_yearOfEra hlt
  obtain ⟨year, hyear⟩ : ∃ year, year = yearOfEra day := ⟨_, rfl⟩
  have hyearLt : year < 400 := hyear ▸ yearOfEra_lt hlt
  obtain ⟨dayOfYear, hdayOfYear⟩ : ∃ dayOfYear, dayOfYear = day - yearStart year := ⟨_, rfl⟩
  rw [← hyear] at hstart hstart'
  obtain ⟨hmonth, hmonth', hmonths⟩ := monthStart_spec dayOfYear (by omega)
  obtain ⟨month, hmonthEq⟩ : ∃ month, month = (5 * dayOfYear + 2) / 153 := ⟨_, rfl⟩
  rw [← hmonthEq] at hmonth hmonth' hmonths
  have hdate : Date.ofDay n =
      { year := era * 400 + year + if month < 10 then 0 else 1
        month := if month < 10 then month + 3 else month - 9
        day := dayOfYear - monthStart month + 1 } := by
    unfold Date.ofDay
    simp only [← hera, ← hday, ← hyear, ← hdayOfYear, ← hmonthEq]
  rw [hdate]
  refine ⟨?_, ⟨?_, ?_⟩, ?_, ?_⟩
  · have hyear' : (era * 400 + year : Int) % 400 = year := by omega
    have hera' : (era * 400 + year : Int) / 400 = era := by omega
    unfold Date.toDay
    rcases Nat.lt_or_ge month 10 with hearly | hlate
    · have hthree : 3 ≤ month + 3 := by omega
      simp only [hearly, if_true, hthree, Nat.add_sub_cancel, add_zero, hyear', hera',
        Int.toNat_natCast]
      omega
    · have hthree : ¬ 3 ≤ month - 9 := by omega
      have hback : month - 9 + 9 = month := by omega
      simp only [not_lt.mpr hlate, if_false, hthree, hback, Nat.add_sub_cancel,
        add_sub_cancel_right, hyear', hera', Int.toNat_natCast]
      omega
  · dsimp only
    split <;> omega
  · dsimp only
    split <;> omega
  · dsimp only
    omega
  · dsimp only
    omega

theorem year_ofDay {n : Int} (hlow : -100000000 ≤ n) (hhigh : n ≤ 100000000) :
    -1000000 < (Date.ofDay n).year ∧ (Date.ofDay n).year < 1000000 := by
  have hyear : yearOfEra ((n + epochDay) % eraDays).toNat < 400 := by
    apply yearOfEra_lt
    unfold eraDays
    omega
  unfold Date.ofDay
  simp only
  unfold epochDay eraDays at hyear ⊢
  split <;> omega

namespace Instant

/-! ## Digits of a fixed width -/

section Padded

variable {width n : Nat} {rest : List Char}

theorem length_padded (hwidth : 0 < width) (h : n < 10 ^ width) :
    (padded width n).length = width := by
  have hle := (Nat.length_toDigits_le_iff (by decide) hwidth).mpr h
  unfold padded Decimal.digitChars
  rw [List.length_append, List.length_replicate]
  omega

theorem isDigit_of_mem_padded {c : Char} (h : c ∈ padded width n) : c.isDigit = true := by
  rcases List.mem_append.mp h with h | h
  · rw [List.eq_of_mem_replicate h]
    rfl
  · exact Nat.isDigit_of_mem_toDigits (by decide) (by decide) h

/-- Digits read back, whatever follows them. -/
theorem digits?_padded (hwidth : 0 < width) (h : n < 10 ^ width) :
    digits? width (padded width n ++ rest) = some (n, rest) := by
  have hlength := length_padded hwidth h
  have hvalue : Nat.ofDigitChars 10 (padded width n) 0 = n := by
    unfold padded
    rw [Nat.ofDigitChars_append, Nat.ofDigitChars_replicate_zero, Nat.mul_zero]
    exact Nat.ofDigitChars_ten_toDigits
  have hdigits : (padded width n).all Char.isDigit = true :=
    List.all_eq_true.mpr fun c hc => isDigit_of_mem_padded hc
  unfold digits?
  rw [List.take_left' hlength, List.drop_left' hlength]
  simp only [hlength, hdigits, decide_true, Bool.and_self, if_true, ← Nat.ofDigitChars_eq_foldl,
    hvalue]

theorem part?_padded (mark : Char) (hwidth : 0 < width) (h : n < 10 ^ width) :
    part? mark width (mark :: (padded width n ++ rest)) = some (n, rest) := by
  unfold part?
  simp only [if_true]
  exact digits?_padded hwidth h

/-- A year between 0 and 9999 is written with four digits, and every other one with a sign and
six. -/
def IsYear (year : Int) (cs : List Char) : Prop :=
  if 0 ≤ year ∧ year ≤ 9999 then cs.length = 4 ∧ ∀ c ∈ cs, c.isDigit = true
  else ∃ ds, cs = (if year < 0 then '-' else '+') :: ds ∧ ds.length = 6 ∧
    ∀ c ∈ ds, c.isDigit = true

theorem isYear_yearChars {year : Int} (hlow : -1000000 < year) (hhigh : year < 1000000) :
    IsYear year (yearChars year) := by
  unfold IsYear yearChars
  split
  · rename_i hfour
    rw [decide_eq_true hfour.1, decide_eq_true hfour.2]
    exact ⟨length_padded (by decide) (by omega), fun c hc => isDigit_of_mem_padded hc⟩
  · rename_i hother
    rw [if_neg (by rw [Bool.and_eq_true, decide_eq_true_iff, decide_eq_true_iff]; exact hother)]
    exact ⟨_, rfl, length_padded (by decide) (by omega), fun c hc => isDigit_of_mem_padded hc⟩

/-- A year reads back, whatever follows it. -/
theorem year?_yearChars {year : Int} (hlow : -1000000 < year) (hhigh : year < 1000000) :
    year? (yearChars year ++ rest) = some (year, rest) := by
  unfold yearChars
  split
  · rename_i hfour
    rw [Bool.and_eq_true, decide_eq_true_iff, decide_eq_true_iff] at hfour
    have hlt : year.toNat < 10 ^ 4 := by omega
    have hread : (digits? 4 (padded 4 year.toNat ++ rest)).map (fun r => ((r.1 : Int), r.2)) =
        some (year, rest) := by
      rw [digits?_padded (by decide) hlt, Option.map_some, Option.some_inj, Prod.mk.injEq]
      exact ⟨Int.toNat_of_nonneg hfour.1, rfl⟩
    cases hchars : padded 4 year.toNat with
    | nil =>
      have := length_padded (by decide) hlt
      rw [hchars] at this
      cases this
    | cons c cs =>
      have hc : c.isDigit = true :=
        isDigit_of_mem_padded (hchars ▸ List.mem_cons_self)
      rw [hchars] at hread
      rw [List.cons_append] at hread ⊢
      unfold year?
      split
      · rename_i heq
        obtain ⟨rfl, -⟩ := List.cons.inj heq
        cases hc
      · rename_i heq
        obtain ⟨rfl, -⟩ := List.cons.inj heq
        cases hc
      · exact hread
  · rename_i hother
    have hlt : year.natAbs < 10 ^ 6 := by omega
    rw [List.cons_append]
    split
    · rename_i hneg
      unfold year?
      have hvalue : -(year.natAbs : Int) = year := by omega
      simp only [digits?_padded (by decide) hlt, Option.map_some, hvalue]
    · rename_i hpos
      unfold year?
      have hvalue : (year.natAbs : Int) = year := by omega
      simp only [digits?_padded (by decide) hlt, Option.map_some, hvalue]

end Padded

/-! ## The text of an instant -/

theorem year_bounds (i : Instant) :
    -1000000 < (Date.ofDay (i.ms / dayMs)).year ∧ (Date.ofDay (i.ms / dayMs)).year < 1000000 := by
  obtain ⟨ms, hvalid⟩ := i
  unfold greatestMs at hvalid
  unfold dayMs
  exact year_ofDay (by dsimp only; omega) (by dsimp only; omega)

/-- The text of an instant begins with the year. -/
theorem exists_isYear (i : Instant) :
    ∃ cs rest, i.chars = cs ++ '-' :: rest ∧ IsYear (Date.ofDay (i.ms / dayMs)).year cs := by
  obtain ⟨hlow, hhigh⟩ := year_bounds i
  unfold chars
  simp only [List.append_assoc, List.cons_append]
  exact ⟨_, _, rfl, isYear_yearChars hlow hhigh⟩

/-- An instant reads back from its text. -/
theorem ofText?_text (i : Instant) : ofText? i.text = some i := by
  obtain ⟨hyear, hyear'⟩ := year_bounds i
  obtain ⟨ms, hvalid⟩ := i
  obtain ⟨day, hday⟩ : ∃ day, day = ms / dayMs := ⟨_, rfl⟩
  obtain ⟨rest, hrest⟩ : ∃ rest, rest = (ms % dayMs).toNat := ⟨_, rfl⟩
  have hsplit : ms = day * dayMs + rest := by
    rw [hday, hrest]
    unfold dayMs
    omega
  have hrestLt : rest < 86400000 := by
    rw [hrest]
    unfold dayMs
    omega
  rw [← hday] at hyear hyear'
  obtain ⟨htoDay, ⟨-, hmonth⟩, -, hdayLe⟩ := toDay_ofDay day
  have hparts : rest / 3600000 * 3600000 + rest / 60000 % 60 * 60000 + rest / 1000 % 60 * 1000 +
      rest % 1000 = rest := by omega
  unfold ofText? text chars
  simp only [← hday, ← hrest, String.toList_ofList, List.append_assoc, List.cons_append]
  simp only [year?_yearChars hyear hyear', Option.bind_eq_bind, Option.bind_some]
  rw [part?_padded '-' (by decide) (by omega), Option.bind_some,
    part?_padded '-' (by decide) (by omega), Option.bind_some,
    part?_padded 'T' (by decide) (by omega), Option.bind_some,
    part?_padded ':' (by decide) (by omega), Option.bind_some,
    part?_padded ':' (by decide) (by omega), Option.bind_some,
    part?_padded '.' (by decide) (by omega), Option.bind_some, if_pos rfl]
  show ofMs? ((Date.ofDay day).toDay * dayMs + _) = _
  rw [htoDay, hparts, ← hsplit]
  exact dif_pos hvalid

end Instant

end NodeProbe.Time
