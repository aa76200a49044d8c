import NodeProbe.Text.Utf8

/-!
# Texts

A text is a sequence of 16-bit units. A character beyond U+FFFF takes two of them, its high and its
low half, and any other character takes one. Texts come from JSON, where a half may also stand
alone, so a text need not be one of characters only: `pieces` tells its characters and its lone
halves apart. A text that is written to bytes, or handed to whatever knows characters only, has
U+FFFD for each lone half. A string is a text wherever one is asked for.
-/

namespace NodeProbe

/-- A sequence of 16-bit units. -/
@[ext] structure Text where
  units : List UInt16
  deriving DecidableEq, Inhabited, Repr

namespace Text

/-! ## Characters and units -/

/-- The unit of a character up to U+FFFF. -/
def unit (c : Char) : UInt16 :=
  UInt16.ofNat c.toNat

/-- The first half of a character beyond U+FFFF. -/
def isHigh (u : UInt16) : Bool :=
  0xD800 ≤ u.toNat && u.toNat ≤ 0xDBFF

/-- The second half of a character beyond U+FFFF. -/
def isLow (u : UInt16) : Bool :=
  0xDC00 ≤ u.toNat && u.toNat ≤ 0xDFFF

/-- The character of two halves. -/
def joinHalves (high low : UInt16) : Char :=
  Char.ofNat (0x10000 + (high.toNat - 0xD800) * 0x400 + (low.toNat - 0xDC00))

/-- The units of a character. -/
def charUnits (c : Char) : List UInt16 :=
  let n := c.toNat
  if n < 0x10000 then [unit c]
  else
    [UInt16.ofNat (0xD800 + (n - 0x10000) / 0x400), UInt16.ofNat (0xDC00 + (n - 0x10000) % 0x400)]

/-- The text of some characters. -/
def ofChars (cs : List Char) : Text :=
  ⟨cs.flatMap charUnits⟩

/-- A string as a text. -/
def ofString (s : String) : Text :=
  ofChars s.toList

instance : Coe String Text := ⟨ofString⟩

instance : Append Text := ⟨fun s t => ⟨s.units ++ t.units⟩⟩

/-- The number of units. -/
def length (t : Text) : Nat :=
  t.units.length

/-- There is nothing in the text. -/
def isEmpty (t : Text) : Bool :=
  t.units.isEmpty

theorem isEmpty_iff {t : Text} : t.isEmpty = true ↔ t = "" :=
  ⟨fun h => Text.ext (List.isEmpty_iff.mp h), fun h => h ▸ rfl⟩

theorem filter_isEmpty_eq_some_iff {text : Option Text} {t : Text} :
    text.filter (!·.isEmpty) = some t ↔ text = some t ∧ t ≠ "" := by
  rw [Option.filter_eq_some_iff, Bool.not_eq_true', ← Bool.not_eq_true, isEmpty_iff]

theorem filter_isEmpty_eq_none_iff {text : Option Text} :
    text.filter (!·.isEmpty) = none ↔ ∀ t, text = some t → t = "" := by
  simp only [Option.filter_eq_none_iff, Bool.not_eq_true', Bool.not_eq_false, isEmpty_iff]

/-- The texts one after the other, with a text between any two of them. -/
def joined (between : Text) (ts : List Text) : Text :=
  ⟨between.units.intercalate (ts.map (·.units))⟩

/-- The text begins with this one. -/
def startsWith (t start : Text) : Bool :=
  start.units.isPrefixOf t.units

/-! ## Pieces -/

/-- A character, or a half that stands alone. -/
abbrev Piece := Char ⊕ UInt16

/-- The units of a piece. -/
def Piece.units : Piece → List UInt16
  | .inl c => charUnits c
  | .inr u => [u]

/-- What a unit is that does not belong to a pair. -/
def single (u : UInt16) : Piece :=
  if isHigh u || isLow u then .inr u else .inl (Char.ofNat u.toNat)

/-- The pieces of a sequence of units. -/
def piecesOf : List UInt16 → List Piece
  | [] => []
  | [u] => [single u]
  | u :: v :: rest =>
    if isHigh u && isLow v then .inl (joinHalves u v) :: piecesOf rest
    else single u :: piecesOf (v :: rest)

/-- The characters and the lone halves of a text, in order. -/
def pieces (t : Text) : List Piece :=
  piecesOf t.units

/-- The text of some pieces. -/
def ofPieces (ps : List Piece) : Text :=
  ⟨ps.flatMap Piece.units⟩

/-- The character that a piece is shown as. -/
def Piece.shown : Piece → Char
  | .inl c => c
  | .inr _ => Utf8.replacement

/-- The characters of a text, with U+FFFD for each lone half. -/
def chars (t : Text) : List Char :=
  t.pieces.map Piece.shown

/-- The text as a string, with U+FFFD for each lone half. -/
def toString (t : Text) : String :=
  String.ofList t.chars

/-- The text with U+FFFD for each lone half. -/
def mended (t : Text) : Text :=
  ofChars t.chars

/-- The UTF-8 octets of a text, with those of U+FFFD for each lone half. -/
def utf8 (t : Text) : Bytes :=
  Utf8.encode t.toString

end Text

end NodeProbe
