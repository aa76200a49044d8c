import NodeProbe.Json.Lexer
import NodeProbe.Proofs.Decimal.Reading
import NodeProbe.Proofs.Text.Pieces

/-!
# The lexemes of a printed value

The scanner finds the tokens of a value again in its text (`scanFrom_chars`): a word ends where a
mark follows it (`scanFrom_word`), and each piece of a text is read back from its escape
(`scanFrom_escaped`). What is read is the value as written (`asWritten`): the sign of a zero is
lost, and a number that is not finite has become `null`.
-/

namespace NodeProbe.Json

/-! ## Values as they are written -/

/-- The value that the text of a number stands for. -/
def numberAsWritten (x : Float) : Json :=
  match Decimal.rational? x with
  | some q => if q = 0 then number 0 else number x
  | none => null

mutual

/-- The value that the text of a value stands for. -/
def asWritten : Json → Json
  | null => null
  | bool b => bool b
  | number x => numberAsWritten x
  | string t => string t
  | array items => array (itemsAsWritten items)
  | object fields => object (fieldsAsWritten fields)

/-- The elements of a list as they are written. -/
def itemsAsWritten : List Json → List Json
  | [] => []
  | v :: rest => asWritten v :: itemsAsWritten rest

/-- The fields of an object as they are written. -/
def fieldsAsWritten : List (Text × Json) → List (Text × Json)
  | [] => []
  | (k, v) :: rest => (k, asWritten v) :: fieldsAsWritten rest

end

namespace Token

mutual

/-- The tokens of a value. -/
def ofValue : Json → List Token
  | null => [word null]
  | bool b => [word (bool b)]
  | number x => [word (numberAsWritten x)]
  | string t => [text t]
  | array items => beginArray :: ofItems items ++ [endArray]
  | object fields => beginObject :: ofFields fields ++ [endObject]

/-- The tokens of the elements of a list. -/
def ofItems : List Json → List Token
  | [] => []
  | [v] => ofValue v
  | v :: rest => ofValue v ++ comma :: ofItems rest

/-- The tokens of the fields of an object. -/
def ofFields : List (Text × Json) → List Token
  | [] => []
  | [(k, v)] => text k :: colon :: ofValue v
  | (k, v) :: rest => text k :: colon :: ofValue v ++ comma :: ofFields rest

end

theorem ofItems_cons_cons (v w : Json) (more : List Json) :
    ofItems (v :: w :: more) = ofValue v ++ comma :: ofItems (w :: more) :=
  rfl

theorem ofFields_cons_cons (k : Text) (v : Json) (f : Text × Json) (more : List (Text × Json)) :
    ofFields ((k, v) :: f :: more) =
      text k :: colon :: ofValue v ++ comma :: ofFields (f :: more) :=
  rfl

/-! ## Words -/

/-- May stand in a word: it is no gap, no quote and no mark. -/
def isWordChar (c : Char) : Bool :=
  !isGap c && c ≠ quote && (mark? c).isNone

/-- A word ends here: there is nothing more, or a mark follows. -/
def Stops : List Text.Piece → Prop
  | [] => True
  | .inl c :: _ => (mark? c).isSome
  | .inr _ :: _ => False

section Words

variable {c : Char} {cs : List Char} {rest : List Text.Piece}

theorem isWordChar_iff : isWordChar c = true ↔
    isGap c = false ∧ c ≠ quote ∧ mark? c = none := by
  unfold isWordChar
  simp only [Bool.and_eq_true, Bool.not_eq_true', decide_eq_true_iff, Option.isNone_iff_eq_none,
    and_assoc]

theorem isGap_of_mark (h : (mark? c).isSome) : isGap c = false := by
  unfold mark? at h
  split at h
  · rename_i hc
    rw [hc]
    decide
  repeat
    split at h
    · rename_i hc
      rw [hc]
      decide
  cases h

theorem begin?_mark {t : Token} (h : mark? c = some t) : begin? c = some ([t], .between) := by
  have hgap : isGap c = false := isGap_of_mark (by rw [h]; rfl)
  have hquote : c ≠ quote := by
    rintro rfl
    cases h
  unfold begin?
  rw [hgap, if_neg Bool.false_ne_true, if_neg hquote, h]

theorem begin?_word (h : isWordChar c = true) : begin? c = some ([], .word [c]) := by
  obtain ⟨hgap, hquote, hmark⟩ := isWordChar_iff.mp h
  unfold begin?
  rw [hgap, if_neg Bool.false_ne_true, if_neg hquote, hmark]

/-- One piece is read, and the others from the state behind it. -/
theorem scanFrom_step {p q : Progress} {piece : Text.Piece} {ts : List Token}
    (h : read p piece = some (ts, q)) (rest : List Text.Piece) :
    scanFrom p (piece :: rest) = (scanFrom q rest).map (ts ++ ·) := by
  rw [scanFrom, h]
  simp only [Option.bind_eq_bind, Option.bind_some]
  cases scanFrom q rest <;> rfl

theorem scanFrom_quiet {p q : Progress} {piece : Text.Piece} (h : read p piece = some ([], q))
    (rest : List Text.Piece) : scanFrom p (piece :: rest) = scanFrom q rest := by
  rw [scanFrom_step h]
  exact Option.map_id'

theorem scanFrom_mark {t : Token} (h : mark? c = some t) (rest : List Text.Piece) :
    scanFrom .between (.inl c :: rest) = (scanFrom .between rest).map (t :: ·) := by
  have hread : read .between (.inl c) = some ([t], .between) := begin?_mark h
  exact scanFrom_step hread rest

/-- A word that has begun is read as far as the next mark. -/
theorem scanFrom_word {begun : List Char} {t : Token}
    (hword : ∀ c ∈ cs, isWordChar c = true) (hvalue : ofWord? (begun.reverse ++ cs) = some t)
    (hrest : Stops rest) :
    scanFrom (.word begun) (cs.map .inl ++ rest) = (scanFrom .between rest).map (t :: ·) := by
  induction cs generalizing begun with
  | nil =>
    rw [List.append_nil] at hvalue
    rw [List.map_nil, List.nil_append]
    rcases rest with - | ⟨c | u, rest⟩
    · simp only [scanFrom, hvalue, Option.map_some]
    · obtain ⟨mark, hmark⟩ := Option.isSome_iff_exists.mp hrest
      have hread : read (.word begun) (.inl c) = some ([t, mark], .between) := by
        unfold read readChar
        simp only [hmark, Option.isSome_some, Bool.or_true, if_true, hvalue, begin?_mark hmark]
        rfl
      rw [scanFrom_step hread, scanFrom_mark hmark, Option.map_map]
      rfl
    · cases hrest
  | cons c cs ih =>
    obtain ⟨hgap, hquote, hmark⟩ := isWordChar_iff.mp (hword c List.mem_cons_self)
    have hread : read (.word begun) (.inl c) = some ([], .word (c :: begun)) := by
      unfold read readChar
      simp only [hgap, hquote, hmark, Option.isSome_none, decide_false, Bool.or_self, if_false,
        Bool.false_eq_true]
    rw [List.map_cons, List.cons_append, scanFrom_quiet hread]
    apply ih
    · exact fun x hx => hword x (List.mem_cons_of_mem c hx)
    · rw [List.reverse_cons, List.append_assoc]
      exact hvalue

/-- A word is read as far as the next mark. -/
theorem scanFrom_between_word {t : Token} (hword : ∀ x ∈ c :: cs, isWordChar x = true)
    (hvalue : ofWord? (c :: cs) = some t) (hrest : Stops rest) :
    scanFrom .between ((c :: cs).map .inl ++ rest) = (scanFrom .between rest).map (t :: ·) := by
  have hread : read .between (.inl c) = some ([], .word [c]) :=
    begin?_word (hword c List.mem_cons_self)
  rw [List.map_cons, List.cons_append, scanFrom_quiet hread]
  exact scanFrom_word (fun x hx => hword x (List.mem_cons_of_mem c hx)) hvalue hrest

end Words

/-! ## Numbers and literals -/

theorem ofWord?_of_head {c : Char} {cs : List Char} (h : c = '-' ∨ c.isDigit = true) :
    ofWord? (c :: cs) = (Decimal.strict? (c :: cs)).map fun x => word (number x) := by
  have hother : ∀ d : Char, d = 'n' ∨ d = 't' ∨ d = 'f' → c ≠ d := by
    rintro d hd rfl
    rcases h with rfl | hdigit
    · revert hd
      decide
    · rcases hd with rfl | rfl | rfl <;> cases hdigit
  unfold ofWord?
  rw [if_neg, if_neg, if_neg]
  · intro heq
    exact hother 'f' (.inr (.inr rfl)) (List.cons.inj heq).1
  · intro heq
    exact hother 't' (.inr (.inl rfl)) (List.cons.inj heq).1
  · intro heq
    exact hother 'n' (.inl rfl) (List.cons.inj heq).1

theorem isWordChar_of_isDigit {c : Char} (h : c.isDigit = true) : isWordChar c = true := by
  have hrange : 48 ≤ c.toNat ∧ c.toNat ≤ 57 := by
    unfold Char.isDigit at h
    rw [Bool.and_eq_true, decide_eq_true_iff, decide_eq_true_iff] at h
    exact h
  have hdigit : ∀ n < 58, 48 ≤ n → isWordChar (Char.ofNat n) = true := by decide
  have hc := hdigit c.toNat (by omega) hrange.1
  rwa [Char.ofNat_toNat] at hc

/-- The characters of a numeral may stand in a word. -/
theorem isWordChar_of_mem_chars {n : Decimal.Numeral} (h : n.IsPlain) :
    ∀ c ∈ n.chars, isWordChar c = true := by
  intro c hc
  unfold Decimal.Numeral.chars at hc
  rcases List.mem_append.mp hc with hc | hc
  · exact isWordChar_of_isDigit (h.whole c hc)
  rcases List.mem_append.mp hc with hc | hc
  · cases hf : n.fraction with
    | none =>
      rw [hf] at hc
      cases hc
    | some f =>
      rw [hf] at hc
      rcases List.mem_cons.mp hc with rfl | hc
      · decide
      · exact isWordChar_of_isDigit (h.fraction f hf c hc)
  · cases he : n.exponent with
    | none =>
      rw [he] at hc
      cases hc
    | some e =>
      rw [he] at hc
      rcases List.mem_cons.mp hc with rfl | hc
      · decide
      rcases List.mem_cons.mp hc with rfl | hc
      · cases e.1 <;> decide
      · exact isWordChar_of_isDigit (h.exponent e he c hc)

/-- The text of a double that is not zero is a word, which means the double. -/
theorem ofWord?_text {x : Float} {negative : Bool} {m : Nat} {q : Int}
    (hx : Decimal.Binary.ofFloat x = .finite negative m q) (hm : 0 < m) :
    (∀ c ∈ (Decimal.text x).toList, isWordChar c = true) ∧
      ofWord? (Decimal.text x).toList = some (word (number x)) := by
  obtain ⟨n, hmeans, htext⟩ := Decimal.exists_text_eq hx hm
  obtain ⟨c, cs, hchars, hc⟩ :=
    Decimal.Numeral.exists_chars_eq_cons hmeans.isPlain hmeans.isStrict
  have hword := isWordChar_of_mem_chars hmeans.isPlain
  have hread := Decimal.strict?_text hx hm
  rw [htext] at hread ⊢
  cases negative with
  | true =>
    simp only [if_true] at hread ⊢
    constructor
    · intro x hx
      rcases List.mem_cons.mp hx with rfl | hx
      · decide
      · exact hword x hx
    · rw [ofWord?_of_head (.inl rfl), hread]
      rfl
  | false =>
    simp only [Bool.false_eq_true, if_false] at hread ⊢
    refine ⟨hword, ?_⟩
    rw [hchars] at hread ⊢
    rw [ofWord?_of_head (.inr hc), hread]
    rfl

/-- The word that a number is written as. -/
theorem ofWord?_numberChars (x : Float) :
    (∀ c ∈ numberChars x, isWordChar c = true) ∧
      ofWord? (numberChars x) = some (word (numberAsWritten x)) := by
  have hnull : Decimal.rational? x = none → (∀ c ∈ numberChars x, isWordChar c = true) ∧
      ofWord? (numberChars x) = some (word (numberAsWritten x)) := by
    intro hr
    unfold numberChars numberAsWritten
    rw [hr]
    exact ⟨List.all_eq_true.mp rfl, rfl⟩
  cases hx : Decimal.Binary.ofFloat x with
  | finite negative m q =>
    have hiff := Decimal.rational?_eq_zero_iff hx
    obtain ⟨r, hr⟩ : ∃ r, Decimal.rational? x = some r := by
      unfold Decimal.rational?
      rw [hx]
      exact ⟨_, rfl⟩
    unfold numberChars numberAsWritten
    rw [hr] at hiff
    rw [hr, Option.isSome_some, if_pos rfl]
    rcases Nat.eq_zero_or_pos m with rfl | hm
    · have hzero : r = 0 := Option.some.inj (hiff.mpr rfl)
      have hread : Decimal.strict? ['0'] = some 0 := by decide +kernel
      rw [Decimal.text_zero hx, hzero]
      refine ⟨List.all_eq_true.mp rfl, ?_⟩
      show ofWord? ['0'] = some (word (number 0))
      rw [ofWord?_of_head (.inr rfl), hread]
      rfl
    · have hne : r ≠ 0 := by
        rintro rfl
        have := hiff.mp rfl
        omega
      simp only [if_neg hne]
      exact ofWord?_text hx hm
  | infinite negative =>
    apply hnull
    unfold Decimal.rational?
    rw [hx]
    rfl
  | nan =>
    apply hnull
    unfold Decimal.rational?
    rw [hx]
    rfl

/-! ## Texts -/

section Texts

variable {begun : List UInt16} {rest : List Text.Piece}

theorem digitValue?_lowerDigit : ∀ n < 16, Text.digitValue? (Text.lowerDigit n) = some n := by
  decide

theorem scanFrom_unit {needed value n : Nat} (hn : n < 16) (hneeded : 1 < needed) :
    scanFrom (.unit begun needed value) (.inl (Text.lowerDigit n) :: rest) =
      scanFrom (.unit begun (needed - 1) (value * 16 + n)) rest := by
  refine scanFrom_quiet ?_ rest
  unfold read readChar
  simp only [digitValue?_lowerDigit n hn, Option.bind_eq_bind, Option.bind_some,
    if_neg (not_le.mpr hneeded)]
  rfl

theorem scanFrom_unit_last {value n : Nat} (hn : n < 16) :
    scanFrom (.unit begun 1 value) (.inl (Text.lowerDigit n) :: rest) =
      scanFrom (.text (UInt16.ofNat (value * 16 + n) :: begun)) rest := by
  refine scanFrom_quiet ?_ rest
  unfold read readChar
  simp only [digitValue?_lowerDigit n hn, Option.bind_eq_bind, Option.bind_some, le_refl, if_true]
  rfl

/-- Four digits are read back as the unit that they write. -/
theorem scanFrom_fourDigits {n : Nat} (hn : n < 65536) :
    scanFrom (.text begun)
        ((backslash :: 'u' :: Text.fourDigits n).map .inl ++ rest) =
      scanFrom (.text (UInt16.ofNat n :: begun)) rest := by
  have hbackslash : read (.text begun) (.inl backslash) = some ([], .escape begun) := rfl
  have hu : read (.escape begun) (.inl 'u') = some ([], .unit begun 4 0) := rfl
  have hvalue : (((0 * 16 + n / 4096 % 16) * 16 + n / 256 % 16) * 16 + n / 16 % 16) * 16 +
      n / 1 % 16 = n := by omega
  rw [List.map_cons, List.cons_append, scanFrom_quiet hbackslash, List.map_cons, List.cons_append,
    scanFrom_quiet hu]
  show scanFrom (.unit begun 4 0) (.inl (Text.lowerDigit (n / 4096 % 16)) ::
    .inl (Text.lowerDigit (n / 256 % 16)) :: .inl (Text.lowerDigit (n / 16 % 16)) ::
    .inl (Text.lowerDigit (n / 1 % 16)) :: rest) = _
  rw [scanFrom_unit (Nat.mod_lt _ (by omega)) (by omega),
    scanFrom_unit (Nat.mod_lt _ (by omega)) (by omega),
    scanFrom_unit (Nat.mod_lt _ (by omega)) (by omega),
    scanFrom_unit_last (Nat.mod_lt _ (by omega)), hvalue]

/-- A short escape is read back as the character for which it stands. -/
theorem scanFrom_shortEscape {c mark : Char} {u : UInt16} (hmark : mark ≠ 'u')
    (hu : ofEscape? mark = some u) (hc : Text.charUnits c = [u]) :
    scanFrom (.text begun) (([backslash, mark].map .inl) ++ rest) =
      scanFrom (.text ((Text.charUnits c).reverse ++ begun)) rest := by
  have hbackslash : read (.text begun) (.inl backslash) = some ([], .escape begun) := rfl
  have hescape : read (.escape begun) (.inl mark) = some ([], .text (u :: begun)) := by
    unfold read readChar
    simp only [if_neg hmark, hu, Option.map_some]
  rw [List.map_cons, List.cons_append, scanFrom_quiet hbackslash, List.map_cons, List.cons_append,
    scanFrom_quiet hescape, hc]
  rfl

/-- A control character is escaped by four digits, the first two of which are zero. -/
theorem fourDigits_of_lt {n : Nat} (h : n < 32) :
    Text.fourDigits n = ['0', '0', Text.lowerDigit (n / 16), Text.lowerDigit (n % 16)] := by
  have hhigh : n / 16 % 16 = n / 16 := by omega
  have hzero : n / 256 % 16 = 0 := by omega
  have hzero' : n / 4096 % 16 = 0 := by omega
  unfold Text.fourDigits
  rw [List.map_cons, List.map_cons, List.map_cons, List.map_cons, hhigh, hzero, hzero',
    Nat.div_one, List.map_nil]
  rfl

theorem scanFrom_escapeChar (c : Char) :
    scanFrom (.text begun) ((escapeChar c).map .inl ++ rest) =
      scanFrom (.text ((Text.charUnits c).reverse ++ begun)) rest := by
  unfold escapeChar
  split
  · rename_i hc
    rw [Bool.or_eq_true, decide_eq_true_iff, decide_eq_true_iff] at hc
    rcases hc with rfl | rfl
    · exact scanFrom_shortEscape (by decide) rfl rfl
    · exact scanFrom_shortEscape (by decide) rfl rfl
  rename_i hplain
  split
  · rename_i hc
    rw [hc]
    exact scanFrom_shortEscape (by decide) rfl rfl
  split
  · rename_i hc
    rw [hc]
    exact scanFrom_shortEscape (by decide) rfl rfl
  split
  · rename_i hc
    rw [hc]
    exact scanFrom_shortEscape (by decide) rfl rfl
  split
  · rename_i hc
    rw [hc]
    exact scanFrom_shortEscape (by decide) rfl rfl
  split
  · rename_i hc
    rw [hc]
    exact scanFrom_shortEscape (by decide) rfl rfl
  split
  · rename_i hcontrol
    have hdigits : [backslash, 'u', '0', '0', Text.lowerDigit (c.toNat / 16),
        Text.lowerDigit (c.toNat % 16)] = backslash :: 'u' :: Text.fourDigits c.toNat := by
      rw [fourDigits_of_lt hcontrol]
    rw [hdigits, scanFrom_fourDigits (by omega), Text.charUnits_of_lt (by omega)]
    rfl
  · rename_i hcontrol
    rw [Bool.or_eq_true, decide_eq_true_iff, decide_eq_true_iff, not_or] at hplain
    have hread : read (.text begun) (.inl c) =
        some ([], .text ((Text.charUnits c).reverse ++ begun)) := by
      unfold read readChar
      simp only [if_neg hplain.1, if_neg hplain.2, if_neg hcontrol]
    exact scanFrom_quiet hread rest

/-- What stands for a piece between quotes. -/
def escaped : Text.Piece → List Char
  | .inl c => escapeChar c
  | .inr u => escapeHalf u

/-- Each piece is read back from its escape. -/
theorem scanFrom_escaped (pieces : List Text.Piece) (begun : List UInt16) :
    scanFrom (.text begun) ((pieces.flatMap escaped).map .inl ++ rest) =
      scanFrom (.text ((pieces.flatMap Text.Piece.units).reverse ++ begun)) rest := by
  induction pieces generalizing begun with
  | nil => rfl
  | cons piece pieces ih =>
    have hpiece : ∀ rest, scanFrom (.text begun) ((escaped piece).map .inl ++ rest) =
        scanFrom (.text (piece.units.reverse ++ begun)) rest := by
      intro rest
      rcases piece with c | u
      · exact scanFrom_escapeChar c
      · have hu := @scanFrom_fourDigits begun rest u.toNat u.toNat_lt
        rw [UInt16.ofNat_toNat] at hu
        exact hu
    rw [List.flatMap_cons, List.map_append, List.append_assoc, hpiece, ih, List.flatMap_cons,
      List.reverse_append, List.append_assoc]

/-- A text between quotes is read back. -/
theorem scanFrom_quoted (t : Text) :
    scanFrom .between ((quoted t).map .inl ++ rest) =
      (scanFrom .between rest).map (text t :: ·) := by
  have hopen : read .between (.inl quote) = some ([], .text []) := rfl
  have hquoted : quoted t = quote :: t.pieces.flatMap escaped ++ [quote] := by
    unfold quoted
    congr 3
  have hclose : read (.text (t.pieces.flatMap Text.Piece.units).reverse) (.inl quote) =
      some ([text t], .between) := by
    have htext : (⟨(t.pieces.flatMap Text.Piece.units).reverse.reverse⟩ : Text) = t := by
      rw [List.reverse_reverse]
      exact Text.ofPieces_pieces t
    show some ([text ⟨(t.pieces.flatMap Text.Piece.units).reverse.reverse⟩], _) = _
    rw [htext]
  rw [hquoted, List.cons_append, List.map_cons, List.cons_append, scanFrom_quiet hopen,
    List.map_append, List.append_assoc, scanFrom_escaped, List.append_nil, List.map_cons,
    List.cons_append, scanFrom_step hclose]
  rfl

end Texts

/-! ## Values -/

theorem scanFrom_wordChars {cs : List Char} {t : Token} {rest : List Text.Piece} (hne : cs ≠ [])
    (hword : ∀ c ∈ cs, isWordChar c = true) (hvalue : ofWord? cs = some t) (hrest : Stops rest) :
    scanFrom .between (cs.map .inl ++ rest) = (scanFrom .between rest).map (t :: ·) := by
  obtain ⟨c, cs, rfl⟩ := List.exists_cons_of_ne_nil hne
  exact scanFrom_between_word hword hvalue hrest

theorem numberChars_ne_nil (x : Float) : numberChars x ≠ [] := by
  intro hnil
  have hvalue := (ofWord?_numberChars x).2
  rw [hnil] at hvalue
  cases hvalue

mutual

/-- The tokens of a value are found again in its text. -/
theorem scanFrom_chars : ∀ (v : Json) (rest : List Text.Piece), Stops rest →
    scanFrom .between ((chars v).map .inl ++ rest) =
      (scanFrom .between rest).map (ofValue v ++ ·)
  | .null, rest, hrest =>
    scanFrom_wordChars (by decide) (List.all_eq_true.mp rfl) rfl hrest
  | .bool true, rest, hrest =>
    scanFrom_wordChars (by decide) (List.all_eq_true.mp rfl) rfl hrest
  | .bool false, rest, hrest =>
    scanFrom_wordChars (by decide) (List.all_eq_true.mp rfl) rfl hrest
  | .number x, rest, hrest => by
    obtain ⟨hword, hvalue⟩ := ofWord?_numberChars x
    exact scanFrom_wordChars (numberChars_ne_nil x) hword hvalue hrest
  | .string t, rest, _ => scanFrom_quoted t
  | .array items, rest, _ => by
    have hitems := scanFrom_itemsChars items (.inl ']' :: rest) rfl
    have hopen : mark? '[' = some beginArray := rfl
    have hclose : mark? ']' = some endArray := rfl
    rw [chars, List.cons_append, List.map_cons, List.cons_append, scanFrom_mark hopen,
      List.map_append, List.append_assoc]
    show (scanFrom .between ((itemsChars items).map .inl ++ .inl ']' :: rest)).map _ = _
    rw [hitems, scanFrom_mark hclose, Option.map_map, Option.map_map, ofValue]
    simp only [Function.comp_def, List.cons_append, List.append_assoc, List.nil_append]
  | .object fields, rest, _ => by
    have hfields := scanFrom_fieldsChars fields (.inl '\x7D' :: rest) rfl
    have hopen : mark? '\x7B' = some beginObject := rfl
    have hclose : mark? '\x7D' = some endObject := rfl
    rw [chars, List.cons_append, List.map_cons, List.cons_append, scanFrom_mark hopen,
      List.map_append, List.append_assoc]
    show (scanFrom .between ((fieldsChars fields).map .inl ++ .inl '\x7D' :: rest)).map _ = _
    rw [hfields, scanFrom_mark hclose, Option.map_map, Option.map_map, ofValue]
    simp only [Function.comp_def, List.cons_append, List.append_assoc, List.nil_append]

theorem scanFrom_itemsChars : ∀ (items : List Json) (rest : List Text.Piece), Stops rest →
    scanFrom .between ((itemsChars items).map .inl ++ rest) =
      (scanFrom .between rest).map (ofItems items ++ ·)
  | [], rest, _ => by
    simp only [itemsChars, ofItems, List.map_nil, List.nil_append, Option.map_id']
  | [v], rest, hrest => scanFrom_chars v rest hrest
  | v :: w :: more, rest, hrest => by
    have hcomma : mark? ',' = some comma := rfl
    have hmore := scanFrom_itemsChars (w :: more) rest hrest
    have hv := scanFrom_chars v (.inl ',' :: ((itemsChars (w :: more)).map .inl ++ rest)) rfl
    rw [itemsChars, List.map_append, List.append_assoc, List.map_cons, List.cons_append,
      hv, scanFrom_mark hcomma, hmore, Option.map_map, Option.map_map, ofItems_cons_cons]
    · simp only [Function.comp_def, List.cons_append, List.append_assoc]
    · exact List.cons_ne_nil w more

theorem scanFrom_fieldsChars : ∀ (fields : List (Text × Json)) (rest : List Text.Piece),
    Stops rest → scanFrom .between ((fieldsChars fields).map .inl ++ rest) =
      (scanFrom .between rest).map (ofFields fields ++ ·)
  | [], rest, _ => by
    simp only [fieldsChars, ofFields, List.map_nil, List.nil_append, Option.map_id']
  | [(k, v)], rest, hrest => by
    have hcolon : mark? ':' = some colon := rfl
    rw [fieldsChars, List.map_append, List.append_assoc, scanFrom_quoted, List.map_cons,
      List.cons_append, scanFrom_mark hcolon, scanFrom_chars v rest hrest, Option.map_map,
      Option.map_map, ofFields]
    rfl
  | (k, v) :: f :: more, rest, hrest => by
    have hcolon : mark? ':' = some colon := rfl
    have hcomma : mark? ',' = some comma := rfl
    have hmore := scanFrom_fieldsChars (f :: more) rest hrest
    have hv := scanFrom_chars v (.inl ',' :: ((fieldsChars (f :: more)).map .inl ++ rest)) rfl
    rw [fieldsChars, List.map_append, List.append_assoc, List.map_append, List.append_assoc,
      scanFrom_quoted, List.map_cons, List.cons_append, scanFrom_mark hcolon, List.map_cons,
      List.cons_append, hv, scanFrom_mark hcomma, hmore, Option.map_map,
      Option.map_map, Option.map_map, Option.map_map, ofFields_cons_cons]
    · simp only [Function.comp_def, List.cons_append, List.append_assoc]
    · exact List.cons_ne_nil f more

end

/-- The tokens of the text of a value. -/
theorem scan_print (v : Json) : scan (Text.ofString v.print) = some (ofValue v) := by
  have hpieces : (Text.ofString v.print).pieces = (chars v).map .inl := by
    unfold Text.ofString print
    rw [String.toList_ofList, Text.pieces_ofChars]
  have hchars := scanFrom_chars v [] trivial
  rw [List.append_nil] at hchars
  rw [scan, hpieces, hchars, scanFrom, Option.map_some, List.append_nil]

end Token

end NodeProbe.Json
