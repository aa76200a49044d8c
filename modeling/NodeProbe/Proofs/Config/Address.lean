import NodeProbe.Metrics.Server
import NodeProbe.Proofs.Decimal.Reading
import NodeProbe.Proofs.Decimal.Whole
import NodeProbe.Proofs.Text.Pieces

/-!
# Addresses, checked and used

`Address.Spells` says which texts are an address, without a way to read one. `split?` finds the
address that a text spells (`split?_eq_some_iff`), and there is no second one (`Spells.unique`). The
metrics server takes its address apart in a way of its own: it cuts at the last colon and reads any
number behind it. For what has passed the check both come to the same host and the same port
(`readsAlike`), so the port is never the reason why the server does not listen.
-/

namespace NodeProbe

/-! ## The form -/

namespace Address

/-- The text is a host, a colon and one to five digits. -/
structure Spells (a : Address) (t : Text) : Prop where
  text_eq : a.text = t
  host_ne : a.host ≠ ""
  /-- The host holds no blank, no colon and no slash. -/
  host : ∀ u ∈ a.host.units,
    Text.isBlankCode u.toNat = false ∧ u ≠ Text.unit ':' ∧ u ≠ Text.unit '/'
  length : 1 ≤ a.digits.length ∧ a.digits.length ≤ 5
  digits : ∀ u ∈ a.digits.units, 48 ≤ u.toNat ∧ u.toNat ≤ 57

/-- The number behind the colon is that of a port. -/
def HasPort (a : Address) : Prop :=
  1 ≤ a.port ∧ a.port ≤ 65535

section Form

variable {a b : Address} {t : Text}

theorem isHostUnit_iff {u : UInt16} : isHostUnit u = true ↔
    Text.isBlankCode u.toNat = false ∧ u ≠ Text.unit ':' ∧ u ≠ Text.unit '/' := by
  rw [isHostUnit, Bool.and_eq_true, Bool.and_eq_true, Bool.not_eq_true', decide_eq_true_iff,
    decide_eq_true_iff, and_assoc]
  rfl

theorem isDigitUnit_iff {u : UInt16} : isDigitUnit u = true ↔ 48 ≤ u.toNat ∧ u.toNat ≤ 57 := by
  rw [isDigitUnit, Bool.and_eq_true, decide_eq_true_iff, decide_eq_true_iff]

theorem units_text (a : Address) : a.text.units = a.host.units ++ colon :: a.digits.units := by
  show (a.host.units ++ [colon]) ++ a.digits.units = _
  rw [List.append_assoc]
  rfl

/-- A colon ends the host, so what is found is the only address that the text spells. -/
theorem split?_eq_some_iff : split? t = some a ↔ a.Spells t := by
  constructor
  · intro h
    have hparts := List.takeWhile_append_dropWhile (p := isHostUnit) (l := t.units)
    unfold split? at h
    simp only at h
    split at h
    · rename_i mark digits hdrop
      split at h
      · rename_i hgood
        simp only [Bool.and_eq_true, decide_eq_true_iff, Bool.not_eq_true', List.all_eq_true,
          List.isEmpty_eq_false_iff] at hgood
        obtain ⟨⟨⟨⟨rfl, hhost⟩, hdigits⟩, hlength⟩, hall⟩ := hgood
        obtain rfl := Option.some.inj h
        refine ⟨Text.ext ?_, fun heq => hhost (congrArg Text.units heq), fun u hu => ?_,
          ⟨List.length_pos_iff.mpr hdigits, hlength⟩, fun u hu => isDigitUnit_iff.mp (hall u hu)⟩
        · rw [units_text, ← hdrop, hparts]
        · exact isHostUnit_iff.mp (List.mem_takeWhile_imp hu)
      · cases h
    · cases h
  · rintro ⟨rfl, hhost, hunits, hlength, hdigits⟩
    have hall : ∀ u ∈ a.host.units, isHostUnit u = true := fun u hu =>
      isHostUnit_iff.mpr (hunits u hu)
    have hcolon : ¬ isHostUnit colon = true := by decide
    have hne : a.host.units ≠ [] := fun heq => hhost (Text.ext heq)
    unfold split?
    rw [units_text, List.takeWhile_append_of_pos hall, List.dropWhile_append_of_pos hall,
      List.takeWhile_cons_of_neg hcolon, List.dropWhile_cons_of_neg hcolon, List.append_nil]
    simp only
    rw [if_pos]
    simp only [Bool.and_eq_true, decide_eq_true_iff, Bool.not_eq_true', List.all_eq_true,
      List.isEmpty_eq_false_iff, true_and]
    exact ⟨⟨⟨hne, List.length_pos_iff.mp hlength.1⟩, hlength.2⟩, fun u hu =>
      isDigitUnit_iff.mpr (hdigits u hu)⟩

/-- A text spells one address at most. -/
theorem Spells.unique (ha : a.Spells t) (hb : b.Spells t) : a = b :=
  Option.some.inj ((split?_eq_some_iff.mpr ha).symm.trans (split?_eq_some_iff.mpr hb))

theorem split?_eq_none_iff : split? t = none ↔ ¬ ∃ a : Address, a.Spells t := by
  simp only [← split?_eq_some_iff, ← Option.isSome_iff_exists, Option.not_isSome_iff_eq_none]

/-- What comes of a text: the first of the two checks that fails is named. -/
theorem parse_cases (t : Text) :
    (∃ a : Address, a.Spells t ∧ a.HasPort ∧ parse t = .ok a) ∨
      (∃ a : Address, a.Spells t ∧ ¬ a.HasPort ∧ parse t = .error .portRange) ∨
      (¬ ∃ a : Address, a.Spells t) ∧ parse t = .error .notHostPort := by
  unfold parse
  cases hsplit : split? t with
  | none => exact .inr (.inr ⟨split?_eq_none_iff.mp hsplit, rfl⟩)
  | some a =>
    have hspells := split?_eq_some_iff.mp hsplit
    by_cases hport : a.HasPort
    · exact .inl ⟨a, hspells, hport, if_pos hport⟩
    · exact .inr (.inl ⟨a, hspells, hport, if_neg hport⟩)

theorem parse_eq_ok_iff : parse t = .ok a ↔ a.Spells t ∧ a.HasPort := by
  rcases parse_cases t with ⟨b, hb, hport, heq⟩ | ⟨b, hb, hport, heq⟩ | ⟨hnone, heq⟩ <;>
    rw [heq]
  · rw [Except.ok.injEq]
    exact ⟨fun h => h ▸ ⟨hb, hport⟩, fun h => hb.unique h.1⟩
  · exact ⟨nofun, fun h => absurd (hb.unique h.1 ▸ h.2) hport⟩
  · exact ⟨nofun, fun h => absurd ⟨a, h.1⟩ hnone⟩

end Form

/-! ## The digits -/

section Digits

variable {a : Address} {t : Text}

/-- The digits as characters. -/
def digitChars (a : Address) : List Char :=
  a.digits.units.map fun u => Char.ofNat u.toNat

theorem toNat_digitChar {u : UInt16} (h : 48 ≤ u.toNat ∧ u.toNat ≤ 57) :
    (Char.ofNat u.toNat).toNat = u.toNat := by
  refine Text.toNat_ofNat ?_
  unfold Nat.isValidChar
  omega

theorem Spells.isDigit (h : a.Spells t) : ∀ c ∈ a.digitChars, c.isDigit = true := by
  intro c hc
  obtain ⟨u, hu, rfl⟩ := List.mem_map.mp hc
  rw [Char.isDigit_iff_toNat, toNat_digitChar (h.digits u hu)]
  exact h.digits u hu

theorem Spells.digitChars_ne (h : a.Spells t) : a.digitChars ≠ [] := by
  have hlength : a.digitChars.length = a.digits.length := List.length_map _
  rw [← List.length_pos_iff, hlength]
  exact h.length.1

theorem Spells.toString_digits (h : a.Spells t) :
    a.digits.toString = String.ofList a.digitChars := by
  have hunit : ∀ u ∈ a.digits.units, Text.charUnits (Char.ofNat u.toNat) = [u] := by
    intro u hu
    have hdigit := h.digits u hu
    refine Text.charUnits_ofNat_toNat ?_ ?_
    · rw [← Bool.not_eq_true, Text.isHigh_iff]
      omega
    · rw [← Bool.not_eq_true, Text.isLow_iff]
      omega
  have hunits : a.digits = Text.ofString (String.ofList a.digitChars) := by
    refine Text.ext ?_
    rw [Text.ofString, String.toList_ofList, Text.ofChars, digitChars, List.flatMap_map,
      List.flatMap_congr hunit, List.flatMap_singleton']
  rw [hunits, Text.toString_ofString]

theorem Spells.digitsValue (h : a.Spells t) : Decimal.digitsValue a.digitChars = a.port := by
  rw [Decimal.digitsValue, digitChars, List.foldl_map, port]
  refine List.foldl_ext _ _ _ fun n u hu => ?_
  rw [toNat_digitChar (h.digits u hu)]
  rfl

end Digits

end Address

/-! ## The server -/

namespace Endpoint

variable {a : Address} {t : Text}

/-- A text that is an address holds one colon, so it is cut at the same place from behind. -/
theorem of_eq (h : a.Spells t) : of t = ⟨a.host, Decimal.coerce a.digits.toString⟩ := by
  have hdigits : ∀ u ∈ a.digits.units.reverse, decide (u ≠ Address.colon) = true := by
    intro u hu
    have hu := h.digits u (List.mem_reverse.mp hu)
    refine decide_eq_true fun heq => ?_
    rw [heq] at hu
    exact absurd hu (by decide)
  have hreverse : t.units.reverse =
      a.digits.units.reverse ++ Address.colon :: a.host.units.reverse := by
    rw [← h.text_eq, Address.units_text, List.reverse_append, List.reverse_cons, List.append_assoc,
      List.singleton_append]
  unfold of
  simp only [hreverse]
  rw [List.dropWhile_append_of_pos hdigits, List.takeWhile_append_of_pos hdigits,
    List.dropWhile_cons_of_neg (by simp), List.takeWhile_cons_of_neg (by simp), List.append_nil]
  simp only [List.reverse_reverse]

theorem rational?_port (h : a.Spells t) (hport : a.HasPort) :
    Decimal.rational? (of t).port = some (a.port : ℚ) := by
  rw [of_eq h, h.toString_digits, Decimal.coerce_digits h.digitChars_ne h.isDigit, h.digitsValue,
    Decimal.rational?_ofInt]
  have := hport.2
  omega

theorem portIsUsable_of (h : a.Spells t) (hport : a.HasPort) : (of t).portIsUsable = true := by
  have hvalue := rational?_port h hport
  have hwhole : Decimal.isInteger (of t).port = true :=
    Decimal.isInteger_iff.mpr ⟨a.port, by rw [hvalue, Int.cast_natCast]⟩
  have hfloor : (a.port : ℚ).floor = a.port := by
    rw [← Rat.floor_intCast (a.port : Int), Int.cast_natCast]
  unfold portIsUsable Decimal.wholePart?
  rw [hvalue]
  simp only [Nat.cast_nonneg, if_true, hwhole, hfloor, Int.toNat_natCast, Bool.true_and]
  exact decide_eq_true hport.2

end Endpoint

namespace Address

variable {a : Address} {t : Text}

theorem Spells.isEmpty_eq_false (h : a.Spells t) : t.isEmpty = false := by
  rw [← h.text_eq, Text.isEmpty, units_text, List.isEmpty_eq_false_iff]
  simp

/-- Where the server listens is refused by the system only. -/
theorem Spells.listen (h : a.Spells t) (hport : a.HasPort) (occupied : Option Text) :
    Metrics.listen (some t) occupied =
      occupied.elim (.ok (Endpoint.of t)) fun detail => .error (.unbindable t detail) := by
  unfold Metrics.listen
  rw [Option.filter_some_pos (by rw [h.isEmpty_eq_false]; rfl)]
  cases occupied with
  | none => exact if_pos (Endpoint.portIsUsable_of h hport)
  | some detail => rfl

/-- The check of an address and the server that uses it take a text for the same thing. -/
structure ReadsAlike (t : Text) : Prop where
  /-- What is accepted has the form of an address and the number of a port. -/
  accepts : ∀ a, parse t = .ok a ↔ a.Spells t ∧ a.HasPort
  unique : ∀ a b : Address, a.Spells t → b.Spells t → a = b
  /-- The form is named exactly if it is not there. -/
  form : (parse t).mapError ValueProblem.message = .error "expected <host>:<port>" ↔
    ¬ ∃ a : Address, a.Spells t
  /-- The range is named exactly if nothing else is wrong. -/
  range : (parse t).mapError ValueProblem.message =
      .error "port must be between 1 and 65535" ↔
    ∃ a : Address, a.Spells t ∧ ¬ a.HasPort
  /-- The server finds the same host, which is not empty, and the same port. -/
  splits : ∀ a, parse t = .ok a → a.host ≠ "" ∧ (Endpoint.of t).host = a.host ∧
    1 ≤ a.port ∧ a.port ≤ 65535 ∧ Decimal.rational? (Endpoint.of t).port = some (a.port : ℚ)
  /-- The server listens there, unless the system has a reason of its own against it. -/
  listens : ∀ a, parse t = .ok a → ∀ occupied, Metrics.listen (some t) occupied =
    occupied.elim (.ok (Endpoint.of t)) fun detail => .error (.unbindable t detail)

/-- **Every text is read alike by the check of the addresses and by the metrics server: a host
without blanks, colons and slashes, a colon, and one to five digits that are a port.** -/
theorem readsAlike (t : Text) : ReadsAlike t where
  accepts _ := parse_eq_ok_iff
  unique _ _ := Spells.unique
  form := by
    rcases parse_cases t with ⟨a, ha, -, heq⟩ | ⟨a, ha, -, heq⟩ | ⟨hnone, heq⟩ <;> rw [heq]
    · exact ⟨nofun, fun hnone => absurd ⟨a, ha⟩ hnone⟩
    · refine ⟨fun h => ?_, fun hnone => absurd ⟨a, ha⟩ hnone⟩
      exact absurd (Except.error.inj h) (by decide)
    · exact iff_of_true rfl hnone
  range := by
    rcases parse_cases t with ⟨a, ha, hport, heq⟩ | ⟨a, ha, hport, heq⟩ | ⟨hnone, heq⟩ <;>
      rw [heq]
    · refine ⟨nofun, ?_⟩
      rintro ⟨b, hb, hnot⟩
      exact absurd (hb.unique ha ▸ hport) hnot
    · exact iff_of_true rfl ⟨a, ha, hport⟩
    · refine ⟨fun h => ?_, fun ⟨a, ha, _⟩ => absurd ⟨a, ha⟩ hnone⟩
      exact absurd (Except.error.inj h) (by decide)
  splits a h := by
    obtain ⟨hspells, hport⟩ := parse_eq_ok_iff.mp h
    refine ⟨hspells.host_ne, ?_, hport.1, hport.2, Endpoint.rational?_port hspells hport⟩
    rw [Endpoint.of_eq hspells]
  listens a h := by
    obtain ⟨hspells, hport⟩ := parse_eq_ok_iff.mp h
    exact hspells.listen hport

end Address

end NodeProbe
