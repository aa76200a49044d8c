import NodeProbe.Text.Basic

/-!
# Texts, their pieces and their octets

The pieces of a text are another way to write it: `ofPieces_pieces` and `pieces_ofChars` go from one
to the other and back. A text of characters is not changed by being shown (`toString_ofString`), and
`decode_encode` reads the characters back from their UTF-8 octets.
-/

namespace NodeProbe.Text

theorem toNat_unit_ofNat {n : Nat} (h : n < 65536) : (UInt16.ofNat n).toNat = n := by
  rw [UInt16.toNat_ofNat']
  omega

theorem isValidChar_toNat (c : Char) : c.toNat.isValidChar :=
  c.valid

theorem toNat_ofNat {n : Nat} (h : n.isValidChar) : (Char.ofNat n).toNat = n := by
  rw [Char.ofNat, dif_pos h]
  rfl

/-! ## Characters and units -/

section Units

variable {c : Char} {u v : UInt16}

theorem isHigh_iff : isHigh u = true ↔ 0xD800 ≤ u.toNat ∧ u.toNat ≤ 0xDBFF := by
  unfold isHigh
  rw [Bool.and_eq_true, decide_eq_true_iff, decide_eq_true_iff]

theorem isLow_iff : isLow u = true ↔ 0xDC00 ≤ u.toNat ∧ u.toNat ≤ 0xDFFF := by
  unfold isLow
  rw [Bool.and_eq_true, decide_eq_true_iff, decide_eq_true_iff]

theorem charUnits_of_lt (h : c.toNat < 0x10000) : charUnits c = [unit c] := by
  unfold charUnits
  exact if_pos h

theorem toNat_unit (h : c.toNat < 0x10000) : (unit c).toNat = c.toNat :=
  toNat_unit_ofNat h

theorem single_of_isHigh (h : isHigh u = true) : single u = .inr u := by
  unfold single
  rw [h]
  rfl

theorem single_of_isLow (h : isLow u = true) : single u = .inr u := by
  unfold single
  rw [h, Bool.or_true]
  rfl

theorem single_of_not (hhigh : isHigh u = false) (hlow : isLow u = false) :
    single u = .inl (Char.ofNat u.toNat) := by
  unfold single
  rw [hhigh, hlow]
  rfl

/-- A character of one unit is no half. -/
theorem not_isHalf_unit (h : c.toNat < 0x10000) :
    isHigh (unit c) = false ∧ isLow (unit c) = false := by
  have hunit := toNat_unit h
  have hvalid := isValidChar_toNat c
  unfold Nat.isValidChar at hvalid
  constructor
  · rw [← Bool.not_eq_true, isHigh_iff]
    omega
  · rw [← Bool.not_eq_true, isLow_iff]
    omega

theorem charUnits_ofNat_toNat (hhigh : isHigh u = false) (hlow : isLow u = false) :
    charUnits (Char.ofNat u.toNat) = [u] := by
  have hlt := u.toNat_lt
  have hvalid : u.toNat.isValidChar := by
    rw [← Bool.not_eq_true, isHigh_iff] at hhigh
    rw [← Bool.not_eq_true, isLow_iff] at hlow
    unfold Nat.isValidChar
    omega
  have hnat : (Char.ofNat u.toNat).toNat = u.toNat := toNat_ofNat hvalid
  rw [charUnits_of_lt (by omega), unit, hnat, UInt16.ofNat_toNat]

/-- The halves of a character are halves, and make up the character. -/
theorem charUnits_of_ge (h : 0x10000 ≤ c.toNat) :
    ∃ high low, charUnits c = [high, low] ∧ isHigh high = true ∧ isLow low = true ∧
      joinHalves high low = c := by
  have hvalid := isValidChar_toNat c
  unfold Nat.isValidChar at hvalid
  refine ⟨UInt16.ofNat (0xD800 + (c.toNat - 0x10000) / 0x400),
    UInt16.ofNat (0xDC00 + (c.toNat - 0x10000) % 0x400), ?_, ?_, ?_, ?_⟩
  · unfold charUnits
    exact if_neg (by omega)
  · rw [isHigh_iff, toNat_unit_ofNat (by omega)]
    omega
  · rw [isLow_iff, toNat_unit_ofNat (by omega)]
    omega
  · have hjoin : 0x10000 + (0xD800 + (c.toNat - 0x10000) / 0x400 - 0xD800) * 0x400 +
        (0xDC00 + (c.toNat - 0x10000) % 0x400 - 0xDC00) = c.toNat := by omega
    unfold joinHalves
    rw [toNat_unit_ofNat (by omega), toNat_unit_ofNat (by omega), hjoin, Char.ofNat_toNat]

theorem charUnits_joinHalves (hhigh : isHigh u = true) (hlow : isLow v = true) :
    charUnits (joinHalves u v) = [u, v] := by
  rw [isHigh_iff] at hhigh
  rw [isLow_iff] at hlow
  have hnat : (joinHalves u v).toNat =
      0x10000 + (u.toNat - 0xD800) * 0x400 + (v.toNat - 0xDC00) := by
    refine toNat_ofNat ?_
    unfold Nat.isValidChar
    omega
  have hhigh' : 0xD800 + ((joinHalves u v).toNat - 0x10000) / 0x400 = u.toNat := by omega
  have hlow' : 0xDC00 + ((joinHalves u v).toNat - 0x10000) % 0x400 = v.toNat := by omega
  unfold charUnits
  simp only
  rw [if_neg (by omega), hhigh', hlow', UInt16.ofNat_toNat, UInt16.ofNat_toNat]

end Units

/-! ## Pieces -/

theorem piecesOf_charUnits_append (c : Char) (us : List UInt16) :
    piecesOf (charUnits c ++ us) = .inl c :: piecesOf us := by
  rcases Nat.lt_or_ge c.toNat 0x10000 with hc | hc
  · obtain ⟨hhigh, hlow⟩ := not_isHalf_unit hc
    have hsingle : single (unit c) = .inl c := by
      rw [single_of_not hhigh hlow, toNat_unit hc, Char.ofNat_toNat]
    rw [charUnits_of_lt hc]
    cases us with
    | nil => simp only [List.append_nil, piecesOf, hsingle]
    | cons v rest =>
      simp only [List.cons_append, List.nil_append, piecesOf, hhigh, Bool.false_and,
        Bool.false_eq_true, if_false, hsingle]
  · obtain ⟨high, low, hunits, hhigh, hlow, hjoin⟩ := charUnits_of_ge hc
    simp only [hunits, List.cons_append, List.nil_append, piecesOf, hhigh, hlow, Bool.and_self,
      if_true, hjoin]

/-- A text of characters has no other pieces. -/
theorem pieces_ofChars (cs : List Char) : (ofChars cs).pieces = cs.map .inl := by
  unfold pieces ofChars
  induction cs with
  | nil => rfl
  | cons c cs ih => rw [List.flatMap_cons, piecesOf_charUnits_append, ih, List.map_cons]

theorem units_single (u : UInt16) : (single u).units = [u] := by
  cases hhigh : isHigh u with
  | true =>
    rw [single_of_isHigh hhigh]
    rfl
  | false =>
    cases hlow : isLow u with
    | true =>
      rw [single_of_isLow hlow]
      rfl
    | false =>
      rw [single_of_not hhigh hlow]
      exact charUnits_ofNat_toNat hhigh hlow

/-- A text is the text of its pieces. -/
theorem ofPieces_pieces (t : Text) : ofPieces t.pieces = t := by
  obtain ⟨us⟩ := t
  unfold ofPieces pieces
  congr 1
  induction us using piecesOf.induct with
  | case1 => rfl
  | case2 u =>
    simp only [piecesOf, List.flatMap_cons, List.flatMap_nil, List.append_nil, units_single]
  | case3 u v rest hpair ih =>
    have hboth := hpair
    rw [Bool.and_eq_true] at hboth
    simp only [piecesOf, hpair, if_true, List.flatMap_cons, ih]
    show charUnits (joinHalves u v) ++ rest = u :: v :: rest
    rw [charUnits_joinHalves hboth.1 hboth.2]
    rfl
  | case4 u v rest hpair ih =>
    simp only [piecesOf, hpair, if_false, Bool.false_eq_true, List.flatMap_cons, ih, units_single,
      List.cons_append, List.nil_append]

theorem toString_ofString (s : String) : (ofString s).toString = s := by
  have hchars : (ofString s).chars = s.toList := by
    unfold chars ofString
    rw [pieces_ofChars, List.map_map]
    exact List.map_id _
  unfold toString
  rw [hchars, String.ofList_toList]

/-! ## Octets -/

namespace Utf8

theorem toNat_octet_ofNat {n : Nat} (h : n < 256) : (UInt8.ofNat n).toNat = n := by
  rw [UInt8.toNat_ofNat']
  omega

theorem toList_loop_eq (bytes : ByteArray) (i : Nat) (read : List UInt8) :
    ByteArray.toList.loop bytes i read = read.reverse ++ bytes.data.toList.drop i := by
  fun_induction ByteArray.toList.loop bytes i read with
  | case1 i read h ih =>
    have hi : i < bytes.data.toList.length := by simpa using h
    rw [ih, List.drop_eq_getElem_cons hi]
    simp [ByteArray.get!, h]
  | case2 i read h =>
    rw [List.drop_eq_nil_of_le (by simpa using Nat.le_of_not_lt h)]
    simp

theorem encode_ofList (cs : List Char) :
    encode (String.ofList cs) = cs.flatMap String.utf8EncodeChar := by
  unfold encode
  rw [String.toUTF8_eq_toByteArray, String.toByteArray_ofList, ByteArray.toList, toList_loop_eq]
  exact List.toList_data_toByteArray

/-! ### Reading octets -/

/-- The first octet of two. -/
theorem lead_two : ∀ d < 0x20, 2 ≤ d →
    lead (UInt8.ofNat (d + 0xC0)) = .inr ⟨1, d, 0x80, 0xBF⟩ := by
  decide

/-- The first octet of three. The second one is bound further if the value would be too small, or
that of a half. -/
theorem lead_three : ∀ d < 0x10, lead (UInt8.ofNat (d + 0xE0)) =
    .inr ⟨2, d, if d = 0 then 0xA0 else 0x80, if d = 0xD then 0x9F else 0xBF⟩ := by
  decide

/-- The first octet of four. The second one is bound further if the value would be too small or too
large. -/
theorem lead_four : ∀ d < 5, lead (UInt8.ofNat (d + 0xF0)) =
    .inr ⟨3, d, if d = 0 then 0x90 else 0x80, if d = 4 then 0x8F else 0xBF⟩ := by
  decide

section Decode

variable {b : UInt8} {rest : Bytes} {d value low high : Nat}

theorem decodeFrom_of_begin {p : Pending} (h : lead b = .inr p) :
    decodeFrom none (b :: rest) = decodeFrom (some p) rest := by
  rw [decodeFrom, h]

theorem decodeFrom_of_last (hd : d < 0x40) (hlow : low ≤ d + 0x80) (hhigh : d + 0x80 ≤ high) :
    decodeFrom (some ⟨1, value, low, high⟩) (UInt8.ofNat (d + 0x80) :: rest) =
      Char.ofNat (value * 64 + d) :: decodeFrom none rest := by
  have hb := toNat_octet_ofNat (n := d + 0x80) (by omega)
  have hin : (decide (low ≤ d + 0x80) && decide (d + 0x80 ≤ high)) = true := by
    rw [decide_eq_true hlow, decide_eq_true hhigh]
    rfl
  rw [decodeFrom]
  simp only [hb, hin, Nat.le_refl, if_true, Nat.add_sub_cancel]

theorem decodeFrom_of_more (hd : d < 0x40) (hlow : low ≤ d + 0x80) (hhigh : d + 0x80 ≤ high)
    (n : Nat) :
    decodeFrom (some ⟨n + 2, value, low, high⟩) (UInt8.ofNat (d + 0x80) :: rest) =
      decodeFrom (some ⟨n + 1, value * 64 + d, 0x80, 0xBF⟩) rest := by
  have hb := toNat_octet_ofNat (n := d + 0x80) (by omega)
  have hin : (decide (low ≤ d + 0x80) && decide (d + 0x80 ≤ high)) = true := by
    rw [decide_eq_true hlow, decide_eq_true hhigh]
    rfl
  have hmore : ¬ n + 2 ≤ 1 := by omega
  rw [decodeFrom]
  simp only [hb, hin, hmore, if_true, if_false, Nat.add_sub_cancel]
  rfl

end Decode

/-- The octets of a character read back as the character. -/
theorem decodeFrom_encodeChar_append (c : Char) (rest : Bytes) :
    decodeFrom none (String.utf8EncodeChar c ++ rest) = c :: decodeFrom none rest := by
  have hvalid := isValidChar_toNat c
  unfold Nat.isValidChar at hvalid
  unfold String.utf8EncodeChar
  simp only [Char.toNat_val]
  split
  · have hb := toNat_octet_ofNat (n := c.toNat) (by omega)
    have hlead : lead (UInt8.ofNat c.toNat) = .inl c := by
      unfold lead
      simp only
      rw [hb, if_pos (by omega), Char.ofNat_toNat]
    rw [List.singleton_append, decodeFrom, hlead]
  · split
    · have hvalue : c.toNat / 64 % 0x20 * 64 + c.toNat % 0x40 = c.toNat := by omega
      rw [List.cons_append, decodeFrom_of_begin (lead_two _ (by omega) (by omega)),
        List.singleton_append, decodeFrom_of_last (by omega) (by omega) (by omega), hvalue,
        Char.ofNat_toNat]
    · split
      · have hvalue : (c.toNat / 4096 % 0x10 * 64 + c.toNat / 64 % 0x40) * 64 + c.toNat % 0x40 =
            c.toNat := by omega
        rw [List.cons_append, decodeFrom_of_begin (lead_three _ (by omega)), List.cons_append,
          decodeFrom_of_more (by omega) (by split <;> omega) (by split <;> omega),
          List.singleton_append, decodeFrom_of_last (by omega) (by omega) (by omega), hvalue,
          Char.ofNat_toNat]
      · have hvalue : ((c.toNat / 262144 % 0x08 * 64 + c.toNat / 4096 % 0x40) * 64 +
            c.toNat / 64 % 0x40) * 64 + c.toNat % 0x40 = c.toNat := by omega
        rw [List.cons_append, decodeFrom_of_begin (lead_four _ (by omega)), List.cons_append,
          decodeFrom_of_more (by omega) (by split <;> omega) (by split <;> omega),
          List.cons_append, decodeFrom_of_more (by omega) (by omega) (by omega),
          List.singleton_append, decodeFrom_of_last (by omega) (by omega) (by omega), hvalue,
          Char.ofNat_toNat]

/-- The octets of a text read back as the text. -/
theorem decode_encode (s : String) : decode (encode s) = s := by
  have hdecode : ∀ cs : List Char, decodeFrom none (cs.flatMap String.utf8EncodeChar) = cs := by
    intro cs
    induction cs with
    | nil => rfl
    | cons c cs ih => rw [List.flatMap_cons, decodeFrom_encodeChar_append, ih]
  rw [← String.ofList_toList (s := s), encode_ofList, decode, hdecode]

end Utf8

end NodeProbe.Text
