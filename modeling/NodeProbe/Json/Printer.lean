import NodeProbe.Json.Basic
import NodeProbe.Text.Digit

/-!
# Writing JSON

Values are written without blanks. In a text the quote, the backslash, the controls below U+0020 and
the halves of characters that stand alone are escaped and nothing else is; a number that is not
finite is written as `null`.
-/

namespace NodeProbe.Json

/-- The quote around texts. -/
def quote : Char := Char.ofNat 0x22

/-- The character that begins an escape. -/
def backslash : Char := Char.ofNat 0x5C

/-- A character inside a text. -/
def escapeChar (c : Char) : List Char :=
  if c = quote || c = backslash then [backslash, c]
  else if c = '\x08' then [backslash, 'b']
  else if c = '\x0C' then [backslash, 'f']
  else if c = '\n' then [backslash, 'n']
  else if c = '\r' then [backslash, 'r']
  else if c = '\t' then [backslash, 't']
  else if c.toNat < 0x20 then
    [backslash, 'u', '0', '0', Text.lowerDigit (c.toNat / 16), Text.lowerDigit (c.toNat % 16)]
  else [c]

/-- A lone half of a character inside a text. -/
def escapeHalf (u : UInt16) : List Char :=
  backslash :: 'u' :: Text.fourDigits u.toNat

/-- A text between quotes. -/
def quoted (t : Text) : List Char :=
  quote :: t.pieces.flatMap (fun
    | .inl c => escapeChar c
    | .inr u => escapeHalf u) ++ [quote]

/-- A number, or `null` for one that is not finite. -/
def numberChars (x : Float) : List Char :=
  if (Decimal.rational? x).isSome then (Decimal.text x).toList else "null".toList

mutual

/-- The characters of a value. -/
def chars : Json → List Char
  | null => "null".toList
  | bool true => "true".toList
  | bool false => "false".toList
  | number x => numberChars x
  | string t => quoted t
  | array items => '[' :: itemsChars items ++ [']']
  | object fields => '\x7B' :: fieldsChars fields ++ ['\x7D']

/-- The elements of a list with commas between them. -/
def itemsChars : List Json → List Char
  | [] => []
  | [v] => chars v
  | v :: rest => chars v ++ ',' :: itemsChars rest

/-- The fields of an object with commas between them. -/
def fieldsChars : List (Text × Json) → List Char
  | [] => []
  | [(k, v)] => quoted k ++ ':' :: chars v
  | (k, v) :: rest => quoted k ++ ':' :: chars v ++ ',' :: fieldsChars rest

end

/-- The text of a value. -/
def print (v : Json) : String :=
  String.ofList (chars v)

end NodeProbe.Json
