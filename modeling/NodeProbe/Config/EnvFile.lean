import NodeProbe.Text.Basic
import NodeProbe.Text.Pattern

/-!
# Environment files

An environment file holds lines such as `KEY=value`. `line` is the pattern of one of them, as
`dotenv` has it in the version 16.6.1: perhaps `export`, the key, `=` or a colon and a blank, and
perhaps a value in one of three kinds of quotes or up to a number sign. Quotes around a value are
taken away, and in double quotes `\n` and `\r` stand for the two line ends. A key that comes twice
takes the last value.
-/

namespace NodeProbe.EnvFile

open Text Pattern

/-- The quote that lets escapes stand. -/
def doubleQuote : Char := Char.ofNat 0x22

/-- The single quote. -/
def singleQuote : Char := Char.ofNat 0x27

/-- The slanted quote. -/
def slantedQuote : Char := Char.ofNat 0x60

/-- The character that begins an escape. -/
def backslash : Char := Char.ofNat 0x5C

/-- May stand in a key. -/
def isKeyChar (c : Char) : Bool :=
  (c.toNat < 128 && c.isAlphanum) || c = '_' || c = '.' || c = '-'

/-- Any number of blanks, as many as possible. -/
def blanks : Pattern := many true (one isBlank)

/-- A value in quotes, behind blanks; a quote inside stands behind a backslash. -/
def quotedValue (quote : Char) : Pattern :=
  all [blanks, char quote,
    many true (either (seq (char backslash) (char quote)) (one (· ≠ quote))), char quote]

/-- A value without quotes goes up to a number sign or the end of the line. -/
def bareValue : Pattern :=
  oneOrMore true (one fun c => c ≠ '#' && c ≠ '\r' && c ≠ '\n')

/-- One line. The key is captured under 1 and the value under 2. -/
def line : Pattern :=
  all [lineStart, blanks,
    optional (seq (text "export") (oneOrMore true (one isBlank))),
    capture 1 (oneOrMore true (one isKeyChar)),
    either (all [blanks, char '=', many false (one isBlank)])
      (seq (char ':') (oneOrMore false (one isBlank))),
    optional (capture 2 (anyOf
      [quotedValue singleQuote, quotedValue doubleQuote, quotedValue slantedQuote, bareValue])),
    blanks,
    optional (seq (char '#') (many true (one fun c => !isLineBreak c))),
    lineEnd]

/-- A text between two equal quotes, which is captured under 2. -/
def quotes : Pattern :=
  all [lineStart,
    capture 1 (one fun c => c = singleQuote || c = doubleQuote || c = slantedQuote),
    capture 2 (many true (one fun _ => true)), again 1, lineEnd]

/-- Writes each end of a line as a line feed. -/
def unifyLines : List Char → List Char
  | '\r' :: '\n' :: rest => '\n' :: unifyLines rest
  | '\r' :: rest => '\n' :: unifyLines rest
  | c :: rest => c :: unifyLines rest
  | [] => []

/-- Puts `meaning` for each escape of `letter`. -/
def expand (letter meaning : Char) : List Char → List Char
  | c :: d :: rest =>
    if c = backslash && d = letter then meaning :: expand letter meaning rest
    else c :: expand letter meaning (d :: rest)
  | cs => cs

/-- A value as it is meant: trimmed, without its quotes, and with its escapes if the quotes are
double. -/
def unquote (written : List Char) : List Char :=
  let trimmed := trimChars written
  let bare := quotes.replaceByCapture 2 trimmed
  if trimmed.head? = some doubleQuote then expand 'r' '\r' (expand 'n' '\n' bare) else bare

/-- The variables of a file in the order of their lines. -/
def assignments (content : String) : List (String × String) :=
  (line.findAll (unifyLines content.toList)).map fun m =>
    (String.ofList (m.stop.captured 1), String.ofList (unquote (m.stop.captured 2)))

/-- A key that cannot be a variable. -/
def reservedKey : String := "__proto__"

/-- The variables of a file, each with its last value. -/
def parse (content : String) : List (String × String) :=
  (assignments content).foldr
    (fun (key, value) later =>
      if key = reservedKey || later.any (·.1 = key) then later else (key, value) :: later) []

/-- The variables of a file as texts. -/
def bindings (content : String) : List (Text × Text) :=
  (parse content).map fun (key, value) => (↑key, ↑value)

end NodeProbe.EnvFile
