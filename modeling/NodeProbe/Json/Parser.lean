import NodeProbe.Json.Lexer

/-!
# Reading JSON

`parse?` reads the text of one value. The parser goes through the tokens once; what has been read of
the lists and objects around the current place lies on a stack.
-/

namespace NodeProbe.Json

/-- A list or an object around the value that comes next; the last part read stands in front. -/
inductive Frame where
  | items (read : List Json)
  /-- The fields read so far, and the key of the value that comes next. -/
  | fields (read : List (Text × Json)) (key : Text)

/-- What may come next. -/
inductive Expectation where
  | value
  /-- The first element of a list, or its end. -/
  | firstItem
  /-- The first key of an object, or its end. -/
  | firstKey
  /-- A key, behind a comma. -/
  | key (read : List (Text × Json))
  /-- The colon behind a key. -/
  | colon (read : List (Text × Json)) (key : Text)
  /-- What follows a complete value. -/
  | behind (v : Json)

/-- Reads a token where a value must begin. -/
def beginValue (stack : List Frame) : Token → Option (List Frame × Expectation)
  | .beginObject => some (stack, .firstKey)
  | .beginArray => some (stack, .firstItem)
  | .text t => some (stack, .behind (string t))
  | .word v => some (stack, .behind v)
  | _ => none

/-- Reads a token behind a complete value. -/
def endValue (v : Json) : List Frame → Token → Option (List Frame × Expectation)
  | .items read :: stack, .comma => some (.items (v :: read) :: stack, .value)
  | .items read :: stack, .endArray => some (stack, .behind (array (v :: read).reverse))
  | .fields read k :: stack, .comma => some (stack, .key ((k, v) :: read))
  | .fields read k :: stack, .endObject =>
    some (stack, .behind (object (arrange ((k, v) :: read).reverse)))
  | _, _ => none

/-- Reads a token. -/
def advance (stack : List Frame) : Expectation → Token → Option (List Frame × Expectation)
  | .value, t => beginValue stack t
  | .firstItem, .endArray => some (stack, .behind (array []))
  | .firstItem, t => beginValue (.items [] :: stack) t
  | .firstKey, .endObject => some (stack, .behind (object []))
  | .firstKey, .text k => some (stack, .colon [] k)
  | .key read, .text k => some (stack, .colon read k)
  | .colon read k, .colon => some (.fields read k :: stack, .value)
  | .behind v, t => endValue v stack t
  | _, _ => none

/-- Reads tokens to the end, where one value must be complete. -/
def parseFrom (stack : List Frame) (expected : Expectation) : List Token → Option Json
  | [] =>
    match stack, expected with
    | [], .behind v => some v
    | _, _ => none
  | t :: rest =>
    match advance stack expected t with
    | some (stack, expected) => parseFrom stack expected rest
    | none => none

/-- Reads the text of a value. -/
def parse? (t : Text) : Option Json := do
  parseFrom [] .value (← Token.scan t)

end NodeProbe.Json
