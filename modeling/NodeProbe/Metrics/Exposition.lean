import NodeProbe.Metrics.Registry

/-!
# The exposition

The text that the metrics server answers with: a fixed head, and for each instrument its
description, its unit if there is one, its type, and a line for each sample.
-/

namespace NodeProbe.Metrics

/-- What begins an escape. -/
def backslash : UInt16 := 0x5C

/-- The quote around the values of labels. -/
def quote : UInt16 := 0x22

/-- What stands in a name for what may not stand there. -/
def underscore : UInt16 := Text.unit '_'

/-- May stand in a name: a letter or a digit of ASCII, or an underscore. -/
def isNameUnit (u : UInt16) : Bool :=
  let n := u.toNat
  (48 ≤ n && n ≤ 57) || (65 ≤ n && n ≤ 90) || (97 ≤ n && n ≤ 122) || u = underscore

/-- Keeps one of several underscores in a row. -/
def collapse : List UInt16 → List UInt16
  | [] => []
  | u :: rest =>
    let more := collapse rest
    if u = underscore && more.head? = some underscore then more else u :: more

/-- A name with an underscore for what may not stand in it. -/
def cleanName (name : Text) : Text :=
  ⟨collapse (name.units.map fun u => if isNameUnit u then u else underscore)⟩

/-- Escapes backslashes and line ends. -/
def escapeText (t : Text) : Text :=
  ⟨t.units.flatMap fun u =>
    if u = backslash then [backslash, backslash]
    else if u = Text.unit '\n' then [backslash, Text.unit 'n']
    else [u]⟩

/-- Escapes a value of a label, where quotes are escaped as well. -/
def escapeLabel (t : Text) : Text :=
  ⟨(escapeText t).units.flatMap fun u => if u = quote then [backslash, quote] else [u]⟩

/-- A number in a sample. -/
def sampleNumber (x : Float) : Text :=
  match Decimal.Binary.ofFloat x with
  | .infinite negative => if negative then "-Inf" else "+Inf"
  | _ => Decimal.text x

/-- A value between quotes. -/
def quotedValue (value : Text) : Text :=
  ⟨quote :: (escapeLabel value).units ++ [quote]⟩

/-- Labels in a sample. -/
def labelText (labels : Labels) : Text :=
  Text.joined "," (labels.map fun (key, value) => cleanName key ++ "=" ++ quotedValue value)

/-- A sample. -/
def sample (name : Text) (labels : Labels) (value : Text) : Text :=
  let braced : Text := if labels.isEmpty then "" else "\x7B" ++ labelText labels ++ "\x7D"
  name ++ braced ++ " " ++ value ++ "\n"

/-- What the name of a counter ends in. -/
def totalMark : Text := "_total"

/-- The name of an instrument in the exposition. The name is escaped before it is cleaned, so that
the end of a line leaves the letter of its escape. -/
def exposedName (i : Instrument) : Text :=
  let name := cleanName (escapeText i.name)
  match i.kind with
  | .counter => if totalMark.units.isSuffixOf name.units then name else name ++ totalMark
  | .histogram _ => name

/-- The samples of the buckets, each with the number of values up to its boundary. -/
def bucketSamples (name : Text) (labels : Labels) (boundaries : List Text) (before : Nat) :
    List Nat → List Text
  | [] => []
  | n :: rest =>
    let boundary : Text := boundaries.head?.getD "+Inf"
    sample (name ++ "_bucket") (labels ++ [(↑"le", boundary)]) (Decimal.natText (before + n)) ::
      bucketSamples name labels (boundaries.drop 1) (before + n) rest

/-- The samples of a series. -/
def seriesText (i : Instrument) (s : Series) : Text :=
  let name := exposedName i
  match s.reported with
  | some (.total x) => sample name s.labels (sampleNumber x)
  | some (.distribution d) =>
    sample (name ++ "_count") s.labels (Decimal.natText d.count) ++
      sample (name ++ "_sum") s.labels (sampleNumber d.sum) ++
      Text.joined ""
        (bucketSamples name s.labels (i.kind.boundaries.map (Decimal.text ·)) 0 d.buckets)
  | none => ""

/-- The name of the type of an instrument. -/
def typeText : Kind → String
  | .counter => "counter"
  | .histogram _ => "histogram"

/-- The description of an instrument. -/
def helpText (i : Instrument) : Text :=
  if i.description.isEmpty then "description missing" else escapeText i.description

/-- The line about the unit of an instrument, if it has one. -/
def unitText (i : Instrument) : Text :=
  if i.unit.isEmpty then ""
  else "# UNIT " ++ exposedName i ++ " " ++ escapeText i.unit ++ "\n"

/-- The text of an instrument. -/
def instrumentText (i : Instrument) : Text :=
  "# HELP " ++ exposedName i ++ " " ++ helpText i ++ "\n" ++ unitText i ++
    "# TYPE " ++ exposedName i ++ " " ++ typeText i.kind ++ "\n" ++
    Text.joined "" (i.series.map (seriesText i))

/-- The head of the exposition, which names the program. -/
def expositionHead (program : Text) : Text :=
  "# HELP target_info Target metadata\n# TYPE target_info gauge\n" ++
    sample "target_info" [("service_name", program)] "1"

/-- The exposition of what is reported. -/
def Registry.exposition (r : Registry) (program : Text) : Text :=
  expositionHead program ++
    match r.active with
    | [] => ("# no registered metrics" : Text)
    | instruments => Text.joined "" (instruments.map instrumentText)

end NodeProbe.Metrics
