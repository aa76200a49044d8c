import NodeProbe.CommandLine.Command

/-!
# Reading arguments

Arguments are read from left to right. Flags that are known are taken out with their values; what
looks like a flag and is not known goes to the rest, and so does everything behind it that is not
taken out; all else is an operand. Behind a double hyphen nothing is a flag any more. A flag without
a parameter is answered as soon as it is met, so the reading ends with it.
-/

namespace NodeProbe.CommandLine

/-- What the arguments come to. -/
structure Arguments where
  /-- The values of flags with a parameter. -/
  values : List (Flag × String)
  operands : List String
  /-- What could not be read, from the first unknown flag on. -/
  rest : List String

/-- Why a reading ends early. -/
inductive Halt where
  | met (flag : Flag)
  | missing (flag : Flag)

/-- Looks like a flag: a hyphen with something behind it. -/
def looksLikeFlag (arg : String) : Bool :=
  match arg.toList with
  | '-' :: _ :: _ => true
  | _ => false

/-- The flag of a name. -/
def flagNamed? (flags : List Flag) (name : String) : Option Flag :=
  flags.find? fun f => f.short = name || f.long = name

/-- The flag at the beginning of a cluster `-xyz`, with what is behind it as its value. -/
def cluster? (flags : List Flag) (arg : String) : Option (Flag × String) :=
  match arg.toList with
  | '-' :: letter :: second :: more =>
    if letter = '-' then none
    else
      (flagNamed? flags (String.ofList ['-', letter])).map fun f =>
        (f, String.ofList (second :: more))
  | _ => none

/-- The flag in `--name=value`, if it takes a value. -/
def assigned? (flags : List Flag) (arg : String) : Option (Flag × String) :=
  match arg.toList with
  | '-' :: '-' :: letters =>
    match letters.takeWhile (· ≠ '='), letters.dropWhile (· ≠ '=') with
    | [], _ | _, [] => none
    | name, _ :: value =>
      match flagNamed? flags ("--" ++ String.ofList name) with
      | some f => if f.parameter.isSome then some (f, String.ofList value) else none
      | none => none
  | _ => none

/-- The flag of an argument, and the value if the argument holds one. -/
def flagOf? (flags : List Flag) (arg : String) : Option (Flag × Option String) :=
  match flagNamed? flags arg with
  | some f => some (f, none)
  | none =>
    match cluster? flags arg with
    | some (f, value) => some (f, some value)
    | none => (assigned? flags arg).map fun (f, value) => (f, some value)

namespace Arguments

/-- Puts a value in front. -/
def withValue (a : Arguments) (flag : Flag) (value : String) : Arguments :=
  { a with values := (flag, value) :: a.values }

/-- Puts an argument in front that is no flag, or one that is not known. -/
def withArgument (a : Arguments) (isBeyond : Bool) (arg : String) : Arguments :=
  if isBeyond then { a with rest := arg :: a.rest } else { a with operands := arg :: a.operands }

/-- Reads arguments; `isBeyond` says that an unknown flag has been met. -/
def read (flags : List Flag) (isBeyond : Bool) : List String → Except Halt Arguments
  | [] => .ok ⟨[], [], []⟩
  | arg :: more =>
    if arg = "--" then
      .ok (if isBeyond then ⟨[], [], arg :: more⟩ else ⟨[], more, []⟩)
    else
      match flagOf? flags arg with
      | some (flag, value) =>
        if flag.parameter.isNone then .error (.met flag)
        else
          match value, more with
          | some value, more => (read flags isBeyond more).map (·.withValue flag value)
          | none, value :: more => (read flags isBeyond more).map (·.withValue flag value)
          | none, [] => .error (.missing flag)
      | none =>
        let isBeyond := isBeyond || looksLikeFlag arg
        (read flags isBeyond more).map (·.withArgument isBeyond arg)

/-- The last value of a flag. -/
def value? (a : Arguments) (flag : Flag) : Option String :=
  (a.values.reverse.find? (·.1 = flag)).map (·.2)

end Arguments

end NodeProbe.CommandLine
