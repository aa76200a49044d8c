import NodeProbe.Fault
import NodeProbe.Json.Printer
import NodeProbe.Text.Utf8

/-!
# Outcomes

What a call comes to. The node's side of it is a settlement: a value, perhaps none, or a fault. A
value of the right shape is a success and is kept as its JSON text, all of it; anything else is a
failure of some kind. Only a fault that has no text leaves no outcome at all.
-/

namespace NodeProbe

/-- How a call was answered. -/
abbrev Settlement := Except Fault (Option Json)

/-- What a call comes to. -/
inductive Verdict where
  /-- The text of the result, in UTF-8. -/
  | success (payload : Bytes)
  | failure (kind : FailureKind) (message : Text)

/-- What a call came to, and how many milliseconds it took. -/
structure Outcome where
  method : Method
  verdict : Verdict
  elapsedMs : Float

namespace Verdict

/-- A call that failed in one of the known ways. -/
def ofFailure (method : Method) (failure : CallFailure) : Verdict :=
  let fault : CallFault := ⟨method.name, failure⟩
  .failure fault.kind fault.message

/-- A call whose result has the wrong shape. -/
def ofIssues (method : Method) (issues : List Issue) : Verdict :=
  .ofFailure method (.decode (.wrongShape issues))

/-- A call that took too long. -/
def ofTimeout (method : Method) (limit : Float) : Verdict :=
  .ofFailure method (.timeout (some limit))

/-- A call that came to a value, perhaps to none. -/
def ofResult (method : Method) : Option Json → Verdict
  | none => .ofIssues method (method.shape.check none)
  | some v =>
    match method.shape.check (some v) with
    | [] => .success (Text.Utf8.encode v.print)
    | issues => .ofIssues method issues

/-- A call that was answered. A fault without a text leaves no verdict. -/
def ofSettlement (method : Method) : Settlement → Except Fault Verdict
  | .error fault => fault.message.map (.failure fault.kind ·)
  | .ok v => .ok (.ofResult method v)

/-- The call succeeded. -/
def isSuccess : Verdict → Bool
  | success _ => true
  | failure _ _ => false

end Verdict

end NodeProbe
