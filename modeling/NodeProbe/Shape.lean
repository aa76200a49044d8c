import NodeProbe.Json.Basic

/-!
# Shapes of results

A shape says which JSON values a result may be: a count, a text, a truth value, a list, an object
with some fields of given shapes, or a record, all of whose fields have one shape. Fields that an
object's shape does not name are free. `Shape.issues` lists everything that is wrong with a value,
each with the path to the place; a value has the shape if there is nothing. Problems are worded as
`zod` words them in the version 3.
-/

namespace NodeProbe

/-- What is wrong with one part of a value. -/
inductive Problem where
  /-- The part is missing. -/
  | required
  | wrongType (expected received : String)
  /-- A number that is not whole. -/
  | fraction
  /-- A number below zero. -/
  | negative
  /-- A number that is not above zero. -/
  | notPositive
  deriving DecidableEq, Repr

/-- The text of a problem. -/
def Problem.message : Problem → String
  | required => "Required"
  | wrongType expected received => "Expected " ++ expected ++ ", received " ++ received
  | fraction => "Expected integer, received float"
  | negative => "Number must be greater than or equal to 0"
  | notPositive => "Number must be greater than 0"

/-- A problem and where it is. -/
structure Issue where
  path : List Text
  problem : Problem
  deriving DecidableEq, Repr

/-- Which values a result may be. -/
inductive Shape where
  /-- A whole number that is not negative. -/
  | count
  | text
  | flag
  | list (item : Shape)
  /-- An object, all of whose fields have one shape. -/
  | record (item : Shape)
  /-- An object with these fields, each perhaps optional, and any others. -/
  | object (fields : List (String × Bool × Shape))

namespace Shape

/-- The type of the values of a shape. -/
def typeName : Shape → String
  | count => "number"
  | text => "string"
  | flag => "boolean"
  | list _ => "array"
  | record _ | object _ => "object"

/-- What keeps a number from being a count. Both rules are looked at. -/
def countProblems (x : Float) : List Problem :=
  (if Decimal.isInteger x then [] else [.fraction]) ++ (if x < 0 then [.negative] else [])

mutual

/-- Everything that is wrong with a value, or with the absence of one, place by place. -/
def issues : Shape → List Text → Option Json → List Issue
  | _, path, none => [⟨path, .required⟩]
  | count, path, some (.number x) =>
    if x == x then (countProblems x).map (⟨path, ·⟩) else [⟨path, .wrongType "number" "nan"⟩]
  | text, _, some (.string _) => []
  | flag, _, some (.bool _) => []
  | list item, path, some (.array vs) =>
    (vs.zipIdx.map fun (v, i) => issues item (path ++ [↑(Decimal.natText i)]) (some v)).flatten
  | record item, path, some (.object fields) =>
    (fields.map fun (key, v) => issues item (path ++ [key]) (some v)).flatten
  | object members, path, some (.object fields) => memberIssues members path fields
  | shape, path, some v => [⟨path, .wrongType shape.typeName v.typeName⟩]

/-- Everything that is wrong with the named fields of an object. -/
def memberIssues :
    List (String × Bool × Shape) → List Text → List (Text × Json) → List Issue
  | [], _, _ => []
  | (key, isOptional, shape) :: rest, path, fields =>
    (match isOptional, fields.lookup (key : Text) with
      | true, none => []
      | _, v => issues shape (path ++ [↑key]) v) ++ memberIssues rest path fields

end

/-- Everything that is wrong with a result. -/
def check (shape : Shape) (v : Option Json) : List Issue :=
  shape.issues [] v

/-- An object with these fields. -/
def required (fields : List (String × Shape)) : Shape :=
  object (fields.map fun (key, shape) => (key, false, shape))

end Shape

end NodeProbe
