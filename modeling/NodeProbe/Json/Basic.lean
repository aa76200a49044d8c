import NodeProbe.Decimal.Layout
import NodeProbe.Text.Basic

/-!
# JSON values

A value is `null`, a truth value, a double, a text, a list of values or an object. The fields of an
object stand in a fixed order: keys that are array indices come first, in ascending order, and the
others follow as they were first put in. `put` keeps that order, and a key that is put twice keeps
its place and takes the last value.
-/

namespace NodeProbe

/-- A JSON value. -/
inductive Json where
  | null
  | bool (b : Bool)
  | number (x : Float)
  | string (t : Text)
  | array (items : List Json)
  | object (fields : List (Text × Json))
  deriving Inhabited, BEq

namespace Json

/-- The text that a value is. -/
def text? : Json → Option Text
  | string t => some t
  | _ => none

/-! ## Fields of objects -/

/-- The greatest array index. -/
def greatestIndex : Nat := 4294967294

/-- The digit that a unit is. -/
def digit? (u : UInt16) : Option Nat :=
  if 48 ≤ u.toNat && u.toNat ≤ 57 then some (u.toNat - 48) else none

/-- The array index that a key is: decimal digits without a leading zero. -/
def index? (key : Text) : Option Nat :=
  match key.units.mapM digit? with
  | some [0] => some 0
  | some (d :: rest) =>
    let n := rest.foldl (fun n d => 10 * n + d) d
    if d ≠ 0 && n ≤ greatestIndex then some n else none
  | _ => none

/-- The first key has its place before the second one, whichever was put in first. -/
def precedes (first second : Text) : Bool :=
  match index? first, index? second with
  | some i, some j => i < j
  | some _, none => true
  | none, _ => false

/-- Puts a field in its place; a field with this key gets the new value. -/
def put (key : Text) (value : Json) : List (Text × Json) → List (Text × Json)
  | [] => [(key, value)]
  | (k, v) :: rest =>
    if k = key then (key, value) :: rest
    else if precedes key k then (key, value) :: (k, v) :: rest
    else (k, v) :: put key value rest

/-- The fields in their order, read from the first to the last. -/
def arrange (fields : List (Text × Json)) : List (Text × Json) :=
  fields.foldl (fun done f => put f.1 f.2 done) []

/-- The field of an object. -/
def field? (v : Json) (key : Text) : Option Json :=
  match v with
  | object fields => fields.lookup key
  | _ => none

/-! ## Texts -/

/-- The name of the type of a value. -/
def typeName : Json → String
  | null => "null"
  | bool _ => "boolean"
  | number x => if x == x then "number" else "nan"
  | string _ => "string"
  | array _ => "array"
  | object _ => "object"

/-- The name of the field by which an object gives its own text. -/
def ownText : Text := "toString"

mutual

/-- A value as plain text: the elements of a list stand one after the other with commas between
them, and no field of an object is shown. An object that has a field for its own text has no text,
because no value of JSON can give one. -/
def plain? : Json → Option Text
  | null => some "null"
  | bool true => some "true"
  | bool false => some "false"
  | number x => some (Decimal.text x)
  | string t => some t
  | array items => (plainItems? items).map (Text.joined "," ·)
  | object fields => if (fields.lookup ownText).isSome then none else some "[object Object]"

/-- The elements of a list as plain text; `null` leaves no trace. -/
def plainItems? : List Json → Option (List Text)
  | [] => some []
  | null :: rest => (plainItems? rest).map ("" :: ·)
  | v :: rest =>
    match plain? v, plainItems? rest with
    | some s, some more => some (s :: more)
    | _, _ => none

end

/-! ## Numbers -/

/-- A natural number as a value. -/
def nat (n : Nat) : Json :=
  number (Decimal.ofInt n)

/-- The value, or `null` if there is none. -/
def ofOption (v : Option Json) : Json :=
  v.getD null

end Json

end NodeProbe
