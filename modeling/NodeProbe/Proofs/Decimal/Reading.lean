import NodeProbe.Decimal.Layout
import NodeProbe.Decimal.Numeral
import NodeProbe.Proofs.Decimal.Double
import NodeProbe.Proofs.Decimal.Shortest

/-!
# Numbers read back from their texts

A numeral reads back from its characters (`Numeral.scan_chars`), and the text of a positive decimal
is a numeral in strict form that stands for the decimal, wherever the layout sets the point
(`exists_numeral`). With the shortest digits in it, `strict?` gives back the double
(`strict?_text`); only the sign of a zero is lost. Digits alone are read as the number that they
write, also where blanks and signs would be allowed (`coerce_digits`).
-/

namespace NodeProbe.Decimal

/-! ## Decimals near a double -/

section NearestDecimal

variable {k m digits : Nat} {exponent : Int}

theorem holds_bounds (hpacked : IsPacked k m) (hm : 0 < m) {x : ℚ}
    (h : (Rounding.of m (leastExponent + k)).Holds (leastExponent + k) x) :
    (2 : ℚ) ^ (-1076 : Int) < x ∧ x < 2 ^ (1025 : Int) := by
  obtain ⟨hlow, hhigh, -⟩ := h
  obtain ⟨hmHigh, -, hk⟩ := hpacked
  have hlowGe : 2 ≤ (Rounding.of m (leastExponent + k)).low := by
    unfold Rounding.of
    simp only
    split <;> omega
  have hhighLe : (Rounding.of m (leastExponent + k)).high ≤ 2 ^ 55 := by
    unfold Rounding.of
    simp only
    omega
  have hlowGe' : (2 : ℚ) ≤ (Rounding.of m (leastExponent + k)).low := by exact_mod_cast hlowGe
  have hhighLe' : ((Rounding.of m (leastExponent + k)).high : ℚ) ≤ 2 ^ (55 : Int) := by
    exact_mod_cast hhighLe
  have hleast : leastExponent = -1074 := rfl
  constructor
  · calc (2 : ℚ) ^ (-1076 : Int) < 2 ^ (-1075 : Int) :=
          zpow_lt_zpow_right₀ one_lt_two (by omega)
      _ = 2 * 2 ^ (-1076 : Int) := by rw [← zpow_one_add₀ two_ne_zero]; rfl
      _ ≤ 2 * 2 ^ (leastExponent + k - 2) := by
        gcongr
        · exact one_le_two
        · omega
      _ ≤ (Rounding.of m (leastExponent + k)).low * 2 ^ (leastExponent + k - 2) := by gcongr
      _ ≤ x := hlow
  · calc x ≤ (Rounding.of m (leastExponent + k)).high * 2 ^ (leastExponent + k - 2) := hhigh
      _ ≤ 2 ^ (55 : Int) * 2 ^ (leastExponent + k - 2) := by gcongr
      _ = 2 ^ (55 + (leastExponent + k - 2)) := (zpow_add₀ two_ne_zero _ _).symm
      _ < 2 ^ (1025 : Int) := zpow_lt_zpow_right₀ one_lt_two (by omega)

/-- The bounds beyond which `nearestDecimal` does not compute are beyond all doubles. -/
theorem nearestDecimal_of_bounds (hlow : (2 : ℚ) ^ (-1076 : Int) < digits * 10 ^ exponent)
    (hhigh : (digits * 10 ^ exponent : ℚ) < 2 ^ (1025 : Int)) (negative : Bool) :
    nearestDecimal negative digits exponent =
      nearest negative (digits * power 10 exponent.toNat) (power 10 (-exponent).toNat) := by
  have hdigits : digits ≠ 0 := by
    rintro rfl
    rw [Nat.cast_zero, zero_mul] at hlow
    exact absurd hlow (not_lt.mpr (by positivity))
  have hsmall : ¬ exponent + digits.log2 + 1 < -330 := by
    intro hless
    have hlog : (digits : ℚ) ≤ 10 ^ ((digits.log2 : Int) + 1) := by
      have hpow : digits ≤ 10 ^ (digits.log2 + 1) :=
        Nat.lt_log2_self.le.trans (Nat.pow_le_pow_left (by omega) _)
      exact_mod_cast hpow
    have hten : (10 : ℚ) ^ (-330 : Int) < 2 ^ (-1076 : Int) := by
      have hpow : 2 ^ 1076 < 10 ^ 330 := by decide +kernel
      rw [zpow_neg, zpow_neg]
      exact inv_strictAnti₀ (by positivity) (by exact_mod_cast hpow)
    have : (digits * 10 ^ exponent : ℚ) ≤ 10 ^ (-330 : Int) :=
      calc (digits * 10 ^ exponent : ℚ) ≤ 10 ^ ((digits.log2 : Int) + 1) * 10 ^ exponent := by
            gcongr
        _ = 10 ^ ((digits.log2 : Int) + 1 + exponent) := (zpow_add₀ (by norm_num) _ _).symm
        _ ≤ 10 ^ (-330 : Int) := zpow_le_zpow_right₀ (by norm_num) (by omega)
    linarith
  have hlarge : ¬ 310 < exponent := by
    intro hgreater
    have hone : (1 : ℚ) ≤ digits := by exact_mod_cast Nat.pos_of_ne_zero hdigits
    have hten : (2 : ℚ) ^ (1025 : Int) < 10 ^ (310 : Int) := by
      have hpow : 2 ^ 1025 < 10 ^ 310 := by decide +kernel
      exact_mod_cast hpow
    have : (10 : ℚ) ^ (310 : Int) ≤ digits * 10 ^ exponent :=
      calc (10 : ℚ) ^ (310 : Int) ≤ 10 ^ exponent := zpow_le_zpow_right₀ (by norm_num) (by omega)
        _ ≤ digits * 10 ^ exponent := le_mul_of_one_le_left (by positivity) hone
    exact (hten.trans_le this).not_gt hhigh
  unfold nearestDecimal
  rw [if_neg (by simp only [Bool.or_eq_true, decide_eq_true_iff]; tauto), if_neg hlarge]

end NearestDecimal

/-! ## Numerals -/

theorem digitsValue_eq (cs : List Char) : digitsValue cs = Nat.ofDigitChars 10 cs 0 :=
  rfl

theorem digitsValue_digitChars (n : Nat) : digitsValue (digitChars n) = n :=
  Nat.ofDigitChars_ten_toDigits

theorem isDigit_of_mem_digitChars {n : Nat} {c : Char} (h : c ∈ digitChars n) :
    c.isDigit = true :=
  Nat.isDigit_of_mem_toDigits (by decide) (by decide) h

theorem digitChars_ne_nil (n : Nat) : digitChars n ≠ [] :=
  Nat.toDigits_ne_nil

/-- The digits of a positive number do not begin with a zero. -/
theorem head?_digitChars {n : Nat} (h : 0 < n) : (digitChars n).head? ≠ some '0' := by
  induction n using Nat.strong_induction_on with
  | _ n ih =>
    unfold digitChars at ih ⊢
    rw [Nat.toDigits_eq_if (by decide)]
    split
    · rename_i hlt
      intro hzero
      rw [List.head?_cons, Option.some_inj, Nat.digitChar_eq_zero] at hzero
      omega
    · rw [List.head?_append_of_ne_nil _ Nat.toDigits_ne_nil]
      exact ih (n / 10) (by omega) (by omega)

namespace Numeral

/-- The characters of a numeral. -/
def chars (n : Numeral) : List Char :=
  n.whole ++ (n.fraction.elim [] ('.' :: ·) ++
    n.exponent.elim [] fun e => 'e' :: (if e.1 then '-' else '+') :: e.2)

/-- All its digits are digits. -/
structure IsPlain (n : Numeral) : Prop where
  whole : ∀ c ∈ n.whole, c.isDigit = true
  fraction : ∀ f ∈ n.fraction, ∀ c ∈ f, c.isDigit = true
  exponent : ∀ e ∈ n.exponent, ∀ c ∈ e.2, c.isDigit = true

/-- What the digits of a numeral count, without the point and the exponent. -/
def digits (n : Numeral) : Nat :=
  digitsValue (n.whole ++ n.fraction.getD [])

/-- The power of ten for the last digit. -/
def place (n : Numeral) : Int :=
  (n.exponent.elim 0 fun e => if e.1 then -(digitsValue e.2 : Int) else digitsValue e.2) -
    (n.fraction.getD []).length

theorem value_eq (n : Numeral) (negative : Bool) :
    n.value negative = nearestDecimal negative n.digits n.place := by
  unfold value digits place
  rcases n.exponent with - | ⟨_ | _, ds⟩ <;> rfl

theorem takeWhile_digits {cs rest : List Char} (h : ∀ c ∈ cs, c.isDigit = true)
    (hrest : ∀ c ∈ rest.head?, c.isDigit = false) :
    (cs ++ rest).takeWhile Char.isDigit = cs ∧ (cs ++ rest).dropWhile Char.isDigit = rest := by
  rw [List.takeWhile_append_of_pos h, List.dropWhile_append_of_pos h]
  cases rest with
  | nil => simp
  | cons c rest =>
    have hc := hrest c rfl
    rw [List.takeWhile_cons_of_neg (by rw [hc]; decide),
      List.dropWhile_cons_of_neg (by rw [hc]; decide), List.append_nil]
    exact ⟨rfl, rfl⟩

/-- A numeral reads back from its characters. -/
theorem scan_chars {n : Numeral} (h : n.IsPlain) : scan n.chars = some n := by
  obtain ⟨whole, fraction, exponent⟩ := n
  obtain ⟨hwhole, hfraction, hexponent⟩ := h
  dsimp only at hwhole hfraction hexponent
  have hdot : ∀ rest : List Char, ∀ c ∈ ('.' :: rest).head?, c.isDigit = false := by
    intro rest c hc
    obtain rfl := Option.some.inj hc
    rfl
  have hmark : ∀ rest : List Char, ∀ c ∈ ('e' :: rest).head?, c.isDigit = false := by
    intro rest c hc
    obtain rfl := Option.some.inj hc
    rfl
  have hend : ∀ c ∈ ([] : List Char).head?, c.isDigit = false := by
    intro c hc
    cases hc
  unfold scan chars
  rcases fraction with - | fraction <;> rcases exponent with - | ⟨negative, ds⟩ <;>
    simp only [Option.elim_none, Option.elim_some, List.nil_append, List.cons_append]
  · simp only [takeWhile_digits hwhole hend]
  · have hall : ds.all Char.isDigit = true := List.all_eq_true.mpr (hexponent _ rfl)
    simp only [takeWhile_digits hwhole (hmark _)]
    cases negative
    · exact if_pos hall
    · exact if_pos hall
  · simp only [takeWhile_digits hwhole (hdot _), takeWhile_digits (hfraction _ rfl) hend]
  · have hall : ds.all Char.isDigit = true := List.all_eq_true.mpr (hexponent _ rfl)
    simp only [takeWhile_digits hwhole (hdot _), takeWhile_digits (hfraction _ rfl) (hmark _)]
    cases negative
    · exact if_pos hall
    · exact if_pos hall

/-- There is no sign in front of a digit. -/
theorem splitSign_of_isDigit {c : Char} (h : c.isDigit = true) (plus : Bool) (cs : List Char) :
    splitSign plus (c :: cs) = (false, c :: cs) := by
  unfold splitSign
  split
  · rename_i heq
    obtain ⟨rfl, -⟩ := List.cons.inj heq
    cases h
  · rename_i heq
    obtain ⟨rfl, -⟩ := List.cons.inj heq
    cases h
  · rfl

/-- A numeral in strict form begins with a digit. -/
theorem exists_chars_eq_cons {n : Numeral} (h : n.IsPlain) (hstrict : n.isStrict = true) :
    ∃ c cs, n.chars = c :: cs ∧ c.isDigit = true := by
  obtain ⟨whole, fraction, exponent⟩ := n
  cases whole with
  | nil => cases hstrict
  | cons c cs => exact ⟨c, _, rfl, h.whole c List.mem_cons_self⟩

end Numeral

/-- What `strict?` makes of a numeral in strict form, with a sign or without. -/
theorem strict?_chars {n : Numeral} (h : n.IsPlain) (hstrict : n.isStrict = true)
    (negative : Bool) :
    strict? (if negative then '-' :: n.chars else n.chars) =
      some (nearestDecimal negative n.digits n.place) := by
  have hsign : Numeral.splitSign false (if negative then '-' :: n.chars else n.chars) =
      (negative, n.chars) := by
    cases negative with
    | true => rfl
    | false =>
      obtain ⟨c, cs, hchars, hc⟩ := Numeral.exists_chars_eq_cons h hstrict
      rw [if_neg Bool.false_ne_true, hchars, Numeral.splitSign_of_isDigit hc]
  unfold strict?
  rw [hsign]
  simp only [Numeral.scan_chars h, hstrict, if_true, Numeral.value_eq]

/-! ## The layout -/

section Layout

variable {d : Digits}

/-- A numeral in strict form stands for the decimal. -/
structure Numeral.Means (n : Numeral) (d : Digits) : Prop where
  isPlain : n.IsPlain
  isStrict : n.isStrict = true
  value : (n.digits : ℚ) * 10 ^ n.place = d.value

theorem digitsValue_append (cs ds : List Char) :
    digitsValue (cs ++ ds) = 10 ^ ds.length * digitsValue cs + digitsValue ds := by
  simp only [digitsValue_eq]
  rw [Nat.ofDigitChars_append, Nat.ofDigitChars_eq_ofDigitChars_zero]

theorem digitsValue_replicate_append (n : Nat) (cs : List Char) :
    digitsValue (List.replicate n '0' ++ cs) = digitsValue cs := by
  rw [digitsValue_eq, Nat.ofDigitChars_append, Nat.ofDigitChars_replicate_zero, Nat.mul_zero]
  rfl

theorem isDigit_of_mem_replicate {n : Nat} {c : Char} (h : c ∈ List.replicate n '0') :
    c.isDigit = true := by
  rw [List.eq_of_mem_replicate h]
  rfl

/-- With an exponent behind the digits. -/
theorem means_scientific {c : Char} {rest : List Char} (first : Int)
    (hcs : digitChars d.digits = c :: rest) (hpos : 0 < d.digits)
    (hfirst : first = d.exponent + rest.length) :
    Numeral.Means ⟨[c], if rest.isEmpty then none else some rest,
      some (decide (first < 0), digitChars first.natAbs)⟩ d := by
  have hdigit : ∀ x ∈ c :: rest, x.isDigit = true := by
    intro x hx
    rw [← hcs] at hx
    exact isDigit_of_mem_digitChars hx
  have hhead : c ≠ '0' := by
    have := head?_digitChars hpos
    rw [hcs] at this
    exact fun h => this (congrArg some h)
  have hempty : (digitChars first.natAbs).isEmpty = false := by
    rw [List.isEmpty_eq_false_iff]
    exact digitChars_ne_nil _
  have hfraction :
      (if rest.isEmpty then none else some rest : Option (List Char)).getD [] = rest := by
    cases rest <;> rfl
  refine ⟨⟨?_, ?_, ?_⟩, ?_, ?_⟩
  · intro x hx
    obtain rfl := List.mem_singleton.mp hx
    exact hdigit x List.mem_cons_self
  · intro f hf x hx
    dsimp only at hf
    split at hf
    · cases hf
    · obtain rfl := Option.some.inj hf
      exact hdigit x (List.mem_cons_of_mem c hx)
  · intro e he x hx
    obtain rfl := Option.some.inj he
    exact isDigit_of_mem_digitChars hx
  · unfold Numeral.isStrict Numeral.hasExponentDigits
    cases rest <;> simp [hhead, hempty]
  · have hdigits : Numeral.digits ⟨[c], if rest.isEmpty then none else some rest,
        some (decide (first < 0), digitChars first.natAbs)⟩ = d.digits := by
      unfold Numeral.digits
      rw [hfraction, List.singleton_append, ← hcs, digitsValue_digitChars]
    have hplace : Numeral.place ⟨[c], if rest.isEmpty then none else some rest,
        some (decide (first < 0), digitChars first.natAbs)⟩ = d.exponent := by
      unfold Numeral.place
      rw [hfraction, Option.elim_some, digitsValue_digitChars]
      split
      · rename_i hneg
        have := of_decide_eq_true hneg
        omega
      · rename_i hneg
        have : ¬ first < 0 := fun hlt => hneg (decide_eq_true hlt)
        omega
    rw [hdigits, hplace, Digits.value]

/-- With zeros behind the digits. -/
theorem means_whole (hpos : 0 < d.digits) (hexponent : 0 ≤ d.exponent) :
    Numeral.Means ⟨digitChars d.digits ++ List.replicate d.exponent.toNat '0', none, none⟩ d := by
  refine ⟨⟨?_, ?_, ?_⟩, ?_, ?_⟩
  · intro x hx
    rcases List.mem_append.mp hx with hx | hx
    · exact isDigit_of_mem_digitChars hx
    · exact isDigit_of_mem_replicate hx
  · intro f hf
    cases hf
  · intro e he
    cases he
  · have hhead := head?_digitChars hpos
    cases hcs : digitChars d.digits with
    | nil => exact absurd hcs (digitChars_ne_nil _)
    | cons c rest =>
      rw [hcs] at hhead
      have hne : c ≠ '0' := fun h => hhead (congrArg some h)
      unfold Numeral.isStrict Numeral.hasExponentDigits
      simp [hne]
  · obtain ⟨n, hn⟩ := Int.eq_ofNat_of_zero_le hexponent
    have hdigits : Numeral.digits ⟨digitChars d.digits ++ List.replicate d.exponent.toNat '0',
        none, none⟩ = d.digits * 10 ^ n := by
      unfold Numeral.digits
      rw [Option.getD_none, List.append_nil, digitsValue_append, digitsValue_digitChars,
        ← List.append_nil (List.replicate d.exponent.toNat '0'), digitsValue_replicate_append,
        List.append_nil, List.length_replicate, hn, Int.toNat_natCast]
      exact Nat.mul_comm _ _
    rw [hdigits, Digits.value, hn, zpow_natCast]
    show ((d.digits * 10 ^ n : Nat) : ℚ) * 10 ^ (0 : Int) = _
    rw [zpow_zero, mul_one]
    push_cast
    rfl

/-- With the point among the digits. -/
theorem means_pointed {i : Nat} (hpos : 0 < d.digits) (hi : 0 < i)
    (hplace : (i : Int) = d.exponent + (digitChars d.digits).length) (hexponent : d.exponent < 0) :
    Numeral.Means ⟨(digitChars d.digits).take i, some ((digitChars d.digits).drop i), none⟩ d := by
  have hlength : i < (digitChars d.digits).length := by omega
  refine ⟨⟨?_, ?_, ?_⟩, ?_, ?_⟩
  · intro x hx
    exact isDigit_of_mem_digitChars (List.mem_of_mem_take hx)
  · intro f hf x hx
    obtain rfl := Option.some.inj hf
    exact isDigit_of_mem_digitChars (List.mem_of_mem_drop hx)
  · intro e he
    cases he
  · have hhead := head?_digitChars hpos
    have hdrop : ((digitChars d.digits).drop i).isEmpty = false := by
      rw [List.isEmpty_eq_false_iff, ne_eq, List.drop_eq_nil_iff]
      omega
    obtain ⟨j, rfl⟩ := Nat.exists_eq_add_of_lt hi
    cases hcs : digitChars d.digits with
    | nil => exact absurd hcs (digitChars_ne_nil _)
    | cons c rest =>
      rw [hcs] at hhead hdrop
      have hne : c ≠ '0' := fun h => hhead (congrArg some h)
      unfold Numeral.isStrict Numeral.hasExponentDigits
      rw [show 0 + j + 1 = j + 1 by omega] at hdrop ⊢
      simp only [List.take_succ_cons, Option.all_some, hdrop]
      simp [hne]
  · have hdigits : Numeral.digits ⟨(digitChars d.digits).take i,
        some ((digitChars d.digits).drop i), none⟩ = d.digits := by
      unfold Numeral.digits
      rw [Option.getD_some, List.take_append_drop, digitsValue_digitChars]
    have hplace' : Numeral.place ⟨(digitChars d.digits).take i,
        some ((digitChars d.digits).drop i), none⟩ = d.exponent := by
      unfold Numeral.place
      rw [Option.getD_some, Option.elim_none, List.length_drop]
      omega
    rw [hdigits, hplace', Digits.value]

/-- With the point and zeros in front of the digits. -/
theorem means_small {i : Nat}
    (hplace : -(i : Int) = d.exponent + (digitChars d.digits).length) :
    Numeral.Means ⟨['0'], some (List.replicate i '0' ++ digitChars d.digits), none⟩ d := by
  refine ⟨⟨?_, ?_, ?_⟩, ?_, ?_⟩
  · intro x hx
    obtain rfl := List.mem_singleton.mp hx
    rfl
  · intro f hf x hx
    obtain rfl := Option.some.inj hf
    rcases List.mem_append.mp hx with hx | hx
    · exact isDigit_of_mem_replicate hx
    · exact isDigit_of_mem_digitChars hx
  · intro e he
    cases he
  · unfold Numeral.isStrict Numeral.hasExponentDigits
    simp [digitChars_ne_nil]
  · have hdigits : Numeral.digits ⟨['0'], some (List.replicate i '0' ++ digitChars d.digits),
        none⟩ = d.digits := by
      unfold Numeral.digits
      rw [Option.getD_some, List.singleton_append, ← List.cons_append, ← List.replicate_succ,
        digitsValue_replicate_append, digitsValue_digitChars]
    have hplace' : Numeral.place ⟨['0'], some (List.replicate i '0' ++ digitChars d.digits),
        none⟩ = d.exponent := by
      unfold Numeral.place
      rw [Option.getD_some, Option.elim_none, List.length_append, List.length_replicate]
      push_cast
      omega
    rw [hdigits, hplace', Digits.value]

/-- The text of a positive decimal is a numeral that stands for it. -/
theorem exists_numeral (hpos : 0 < d.digits) :
    ∃ n : Numeral, n.Means d ∧ (standard.decimal d).toList = n.chars := by
  obtain ⟨c, rest, hcs⟩ : ∃ c rest, digitChars d.digits = c :: rest :=
    List.exists_cons_of_ne_nil (digitChars_ne_nil _)
  have hlength : ((digitChars d.digits).length : Int) = rest.length + 1 := by
    rw [hcs, List.length_cons]
    omega
  obtain ⟨first, hfirst⟩ : ∃ first, first = d.exponent + ((digitChars d.digits).length : Int) - 1 :=
    ⟨_, rfl⟩
  unfold Layout.decimal
  simp only [← hfirst]
  split
  · refine ⟨_, means_scientific first hcs hpos (by omega), ?_⟩
    unfold Layout.exponentText Numeral.chars
    simp only [hcs, List.take_succ_cons, List.take_zero, List.drop_succ_cons, List.drop_zero,
      String.toList_append, String.toList_ofList, Option.elim_some, List.append_assoc]
    cases rest <;> by_cases hsign : first < 0 <;> simp [hsign, standard]
  · split
    · rename_i hexponent
      refine ⟨_, means_whole hpos hexponent, ?_⟩
      unfold Numeral.chars
      rw [String.toList_ofList, Option.elim_none, Option.elim_none, List.append_nil,
        List.append_nil]
    · split
      · refine ⟨_, means_pointed hpos (i := (first + 1).toNat) (by omega) (by omega) (by omega), ?_⟩
        unfold Numeral.chars
        rw [List.splitAt_eq, Option.elim_some, Option.elim_none, List.append_nil]
        exact String.toList_ofList
      · refine ⟨_, means_small (i := (-first - 1).toNat) (by omega), ?_⟩
        unfold Numeral.chars
        rw [Option.elim_some, Option.elim_none, List.append_nil]
        exact String.toList_ofList

end Layout

/-! ## Reading back -/

section Text

variable {x : Float} {negative : Bool} {m : Nat} {q : Int}

theorem digits_shortest_pos {k : Nat} (hpacked : IsPacked k m) (hm : 0 < m) :
    0 < (shortest m (leastExponent + k)).digits := by
  obtain ⟨hlow, -⟩ := holds_bounds hpacked hm (holds_shortest hm (leastExponent + k))
  rcases Nat.eq_zero_or_pos (shortest m (leastExponent + k)).digits with hzero | hpos
  · rw [Digits.value, hzero, Nat.cast_zero, zero_mul] at hlow
    exact absurd hlow (not_lt.mpr (by positivity))
  · exact hpos

/-- The text of a double that is not zero is a numeral, behind its sign. -/
theorem exists_text_eq (hx : Binary.ofFloat x = .finite negative m q) (hm : 0 < m) :
    ∃ n : Numeral, n.Means (shortest m q) ∧
      (text x).toList = if negative then '-' :: n.chars else n.chars := by
  obtain ⟨k, hpacked, rfl, -⟩ := exists_isPacked_of_finite x.toBits.toNat_lt hx
  obtain ⟨n, hmeans, hchars⟩ := exists_numeral (digits_shortest_pos hpacked hm)
  refine ⟨n, hmeans, ?_⟩
  unfold text Layout.write
  rw [hx]
  simp only
  rw [if_neg hm.ne', String.toList_append, hchars]
  cases negative <;> rfl

/-- The text of a double that is not zero reads back as the double. -/
theorem strict?_text (hx : Binary.ofFloat x = .finite negative m q) (hm : 0 < m) :
    strict? (text x).toList = some x := by
  obtain ⟨n, ⟨hplain, hstrict, hvalue⟩, htext⟩ := exists_text_eq hx hm
  obtain ⟨k, hpacked, rfl, hbits⟩ := exists_isPacked_of_finite x.toBits.toNat_lt hx
  obtain ⟨hlow, hhigh⟩ := holds_bounds hpacked hm (holds_shortest hm (leastExponent + k))
  rw [← hvalue] at hlow hhigh
  rw [htext, strict?_chars hplain hstrict, nearestDecimal_of_bounds hlow hhigh,
    nearest_eq_of_toBits]
  have hden : 0 < power 10 (-n.place).toNat := Nat.pow_pos (by omega)
  rw [nearestBits_shortest hden hpacked hm]
  · exact hbits
  · rw [← hvalue]
    exact (Digits.value_eq_div ⟨n.digits, n.place⟩).symm

/-- Both zeros are written without a sign. -/
theorem text_zero (hx : Binary.ofFloat x = .finite negative 0 q) : text x = "0" := by
  unfold text Layout.write
  rw [hx]
  rfl

theorem rational?_eq_zero_iff (hx : Binary.ofFloat x = .finite negative m q) :
    rational? x = some 0 ↔ m = 0 := by
  have hunit : (2 : ℚ) ^ q ≠ 0 := by positivity
  unfold rational?
  rw [hx, Binary.value?, scaled_two, Option.some_inj]
  split
  · rw [neg_eq_zero, mul_eq_zero, or_iff_left hunit, Nat.cast_eq_zero]
  · rw [mul_eq_zero, or_iff_left hunit, Nat.cast_eq_zero]

end Text

/-! ## Digits alone -/

section Digits

variable {cs : List Char}

theorem isBlank_of_isDigit {c : Char} (h : c.isDigit = true) : Text.isBlank c = false := by
  obtain ⟨hlow, hhigh⟩ : 48 ≤ c.toNat ∧ c.toNat ≤ 57 := Char.isDigit_iff_toNat.mp h
  simp only [Text.isBlank, Text.isBlankCode, Bool.or_eq_false_iff, Bool.and_eq_false_iff,
    decide_eq_false_iff_not]
  omega

theorem trimChars_digits (h : ∀ c ∈ cs, c.isDigit = true) : Text.trimChars cs = cs := by
  have hkept {ds : List Char} (hds : ∀ d ∈ ds, d.isDigit = true) :
      ds.dropWhile Text.isBlank = ds := by
    cases ds with
    | nil => rfl
    | cons d rest =>
      rw [List.dropWhile_cons_of_neg (by simp [isBlank_of_isDigit (hds d List.mem_cons_self)])]
  rw [Text.trimChars, hkept h, hkept fun c hc => h c (List.mem_reverse.mp hc),
    List.reverse_reverse]

theorem nearestDecimal_natural (n : Nat) : nearestDecimal false n 0 = ofInt n := by
  unfold nearestDecimal ofInt
  split
  · rename_i hzero
    simp only [Bool.or_eq_true, decide_eq_true_iff] at hzero
    obtain rfl : n = 0 := by omega
    rfl
  · have hsign : ¬ (n : Int) < 0 := by omega
    rw [if_neg (by omega)]
    simp [power_eq, hsign]

theorem signed?_digits (hne : cs ≠ []) (h : ∀ c ∈ cs, c.isDigit = true) :
    signed? cs = some (ofInt (digitsValue cs)) := by
  have hplain : Numeral.IsPlain ⟨cs, none, none⟩ := ⟨h, nofun, nofun⟩
  have hscan := Numeral.scan_chars hplain
  have hchars : Numeral.chars ⟨cs, none, none⟩ = cs := by simp [Numeral.chars]
  obtain ⟨c, rest, rfl⟩ := List.exists_cons_of_ne_nil hne
  have hc := h c List.mem_cons_self
  have hfinite : c :: rest ≠ "Infinity".toList := by
    intro heq
    obtain ⟨rfl, -⟩ := List.cons.inj heq
    cases hc
  unfold signed?
  rw [Numeral.splitSign_of_isDigit hc]
  simp only [hfinite, if_false, hchars ▸ hscan]
  rw [if_pos (by simp [Numeral.isLenient, Numeral.hasExponentDigits]), Numeral.value_eq]
  simp [Numeral.digits, Numeral.place, nearestDecimal_natural]

/-- Digits alone are read as the number that they write, whatever they begin with. -/
theorem coerce_digits (hne : cs ≠ []) (h : ∀ c ∈ cs, c.isDigit = true) :
    coerce (String.ofList cs) = ofInt (digitsValue cs) := by
  have hsigned := signed?_digits hne h
  unfold coerce
  rw [String.toList_ofList, trimChars_digits h]
  split
  · contradiction
  · rename_i mark rest
    have hmark := h mark (by simp)
    have hother (c : Char) (hc : c.isDigit = false) : mark ≠ c := by
      rintro rfl
      cases hmark.symm.trans hc
    simp [hother, hsigned]
  · rw [hsigned, Option.getD_some]

end Digits

end NodeProbe.Decimal
