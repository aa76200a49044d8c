import NodeProbe.Fault
import NodeProbe.Decimal.Numeral

/-!
# Addresses

An address is a host, a colon and one to five digits. The host is not empty and holds no blank, no
colon and no slash; the digits are a port between 1 and 65535. `Address.parse` reads one, unit by
unit. The server that is to be bound takes an address apart in its own, more lenient way:
`Endpoint.of` cuts at the last colon and reads whatever follows as a number.
-/

namespace NodeProbe

/-- A host and the digits of a port. -/
structure Address where
  host : Text
  digits : Text
  deriving DecidableEq, Repr

namespace Address

/-- What divides the host from the port. -/
def colon : UInt16 := Text.unit ':'

/-- May stand in a host. -/
def isHostUnit (u : UInt16) : Bool :=
  !Text.isBlankCode u.toNat && u ≠ colon && u ≠ Text.unit '/'

/-- The value of a digit. -/
def digitValue (u : UInt16) : Nat :=
  u.toNat - 48

/-- A decimal digit. -/
def isDigitUnit (u : UInt16) : Bool :=
  48 ≤ u.toNat && u.toNat ≤ 57

/-- The number that the digits write. -/
def port (a : Address) : Nat :=
  a.digits.units.foldl (fun n u => 10 * n + digitValue u) 0

/-- The text of an address. -/
def text (a : Address) : Text :=
  a.host ++ ":" ++ a.digits

/-- A host and one to five digits, whatever their value. -/
def split? (t : Text) : Option Address :=
  let host := t.units.takeWhile isHostUnit
  match t.units.dropWhile isHostUnit with
  | mark :: digits =>
    if mark = colon && !host.isEmpty && !digits.isEmpty && digits.length ≤ 5 &&
        digits.all isDigitUnit then
      some ⟨⟨host⟩, ⟨digits⟩⟩
    else none
  | [] => none

/-- Reads an address. -/
def parse (t : Text) : Except ValueProblem Address :=
  match split? t with
  | none => .error .notHostPort
  | some a => if 1 ≤ a.port ∧ a.port ≤ 65535 then .ok a else .error .portRange

end Address

/-- Where a server is to listen: what stands before the last colon, and the number behind it. -/
structure Endpoint where
  host : Text
  port : Float

namespace Endpoint

/-- Cuts at the last colon. Without a colon the host lacks the last character, and the whole text is
read as the port. -/
def of (address : Text) : Endpoint :=
  let reversed := address.units.reverse
  match reversed.dropWhile (· ≠ Address.colon) with
  | _ :: host =>
    let behind : Text := ⟨(reversed.takeWhile (· ≠ Address.colon)).reverse⟩
    ⟨⟨host.reverse⟩, Decimal.coerce behind.toString⟩
  | [] => ⟨⟨(reversed.drop 1).reverse⟩, Decimal.coerce address.toString⟩

/-- The host is one of this machine, or stands for all of its addresses. -/
def isLocal (e : Endpoint) : Bool :=
  ["", "localhost", "0.0.0.0", "0", "::", "::1"].contains e.host.toString ||
    e.host.startsWith "127."

/-- A server can listen on such a port: a whole number up to 65535. -/
def portIsUsable (e : Endpoint) : Bool :=
  match Decimal.wholePart? e.port with
  | some n => Decimal.isInteger e.port && n ≤ 65535
  | none => false

end Endpoint

end NodeProbe
