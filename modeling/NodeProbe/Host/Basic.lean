import NodeProbe.Host.Name

/-!
# Hosts in addresses

An address holds a host and perhaps a port. Whether a host is a name depends on the scheme of the
address: other schemes have hosts of their own, whose form is free. Every scheme allows a number of
128 bits in brackets.
-/

namespace NodeProbe.Host

/-- A host. -/
def isHost (named : Bool) : List Char → Bool
  | [] => false
  | '[' :: rest => rest.getLast? = some ']' && isGrouped rest.dropLast
  | cs => if named then isName cs else !cs.any isForbidden

/-- Cuts at the first colon that does not stand in brackets. -/
def cutAtColon (inBrackets : Bool) : List Char → List Char × List Char
  | [] => ([], [])
  | c :: rest =>
    if c = ':' && !inBrackets then ([], rest)
    else
      let (host, port) := cutAtColon ((inBrackets || c = '[') && c ≠ ']') rest
      (c :: host, port)

/-- A port: digits, perhaps none, and a number of sixteen bits. -/
def isPort (cs : List Char) : Bool :=
  cs.isEmpty || (Text.valueInBase? 10 cs).any (· < 65536)

/-- A host, perhaps with a port. -/
def isLocation (named : Bool) (cs : List Char) : Bool :=
  let (host, port) := cutAtColon false cs
  isHost named host && isPort port

end NodeProbe.Host
