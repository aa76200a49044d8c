import NodeProbe.Decimal.Numeral
import NodeProbe.Json.Printer

/-!
# Lexemes of JSON

`Token.scan` cuts a text into tokens: six marks, texts, and words, which are literals or numbers. It
is a machine that reads one piece at a time; the state says what has been read of a token that is
not complete yet. Only space, tab, line feed and carriage return may stand between tokens, and a
lone half of a character only in a text.
-/

namespace NodeProbe.Json

/-- A lexeme. -/
inductive Token where
  | beginObject
  | endObject
  | beginArray
  | endArray
  | colon
  | comma
  | text (t : Text)
  /-- A literal or a number. -/
  | word (v : Json)

namespace Token

/-- The marks. -/
def mark? (c : Char) : Option Token :=
  if c = '\x7B' then some beginObject
  else if c = '\x7D' then some endObject
  else if c = '[' then some beginArray
  else if c = ']' then some endArray
  else if c = ':' then some colon
  else if c = ',' then some comma
  else none

/-- The characters that may stand between tokens. -/
def isGap (c : Char) : Bool :=
  c = ' ' || c = '\t' || c = '\n' || c = '\r'

/-- The value of a word. -/
def ofWord? (cs : List Char) : Option Token :=
  if cs = "null".toList then some (word null)
  else if cs = "true".toList then some (word (bool true))
  else if cs = "false".toList then some (word (bool false))
  else (Decimal.strict? cs).map fun x => word (number x)

/-- The unit that a short escape stands for. -/
def ofEscape? (c : Char) : Option UInt16 :=
  if c = quote then some 0x22
  else if c = backslash then some 0x5C
  else if c = '/' then some 0x2F
  else if c = 'b' then some 0x08
  else if c = 'f' then some 0x0C
  else if c = 'n' then some 0x0A
  else if c = 'r' then some 0x0D
  else if c = 't' then some 0x09
  else none

/-- What has been read of the next token; lists have what was read last in front. -/
inductive Progress where
  /-- Nothing: the place is between two tokens. -/
  | between
  | word (read : List Char)
  | text (read : List UInt16)
  | escape (read : List UInt16)
  /-- In the middle of a numeric escape that still needs digits. -/
  | unit (read : List UInt16) (needed value : Nat)

/-- Reads a character where a token may begin. -/
def begin? (c : Char) : Option (List Token × Progress) :=
  if isGap c then some ([], .between)
  else if c = quote then some ([], .text [])
  else
    match mark? c with
    | some t => some ([t], .between)
    | none => some ([], .word [c])

/-- Reads a character: the tokens that it completes, and what is read of the next one. -/
def readChar : Progress → Char → Option (List Token × Progress)
  | .between, c => begin? c
  | .word read, c =>
    if isGap c || c = quote || (mark? c).isSome then do
      let t ← ofWord? read.reverse
      let (ts, p) ← begin? c
      return (t :: ts, p)
    else some ([], .word (c :: read))
  | .text read, c =>
    if c = quote then some ([text ⟨read.reverse⟩], .between)
    else if c = backslash then some ([], .escape read)
    else if c.toNat < 0x20 then none
    else some ([], .text ((Text.charUnits c).reverse ++ read))
  | .escape read, c =>
    if c = 'u' then some ([], .unit read 4 0)
    else (ofEscape? c).map fun u => ([], .text (u :: read))
  | .unit read needed value, c => do
    let n := value * 16 + (← Text.digitValue? c)
    return ([],
      if needed ≤ 1 then .text (UInt16.ofNat n :: read) else .unit read (needed - 1) n)

/-- Reads a piece. -/
def read : Progress → Text.Piece → Option (List Token × Progress)
  | p, .inl c => readChar p c
  | .text read, .inr u => some ([], .text (u :: read))
  | _, .inr _ => none

/-- The tokens of some pieces from a state on. -/
def scanFrom : Progress → List Text.Piece → Option (List Token)
  | .between, [] => some []
  | .word read, [] => (ofWord? read.reverse).map ([·])
  | .text _, [] | .escape _, [] | .unit _ _ _, [] => none
  | p, piece :: rest => do
    let (ts, q) ← read p piece
    let more ← scanFrom q rest
    return ts ++ more

/-- The tokens of a text. -/
def scan (t : Text) : Option (List Token) :=
  scanFrom .between t.pieces

end Token

end NodeProbe.Json
