import NodeProbe.Cipher.Sealed
import NodeProbe.Config.EnvFile
import NodeProbe.Config.VaultKey
import NodeProbe.Text.Base64
import NodeProbe.Text.Casing

/-!
# Vaults

A vault is an environment file whose variables hold other environment files, one for each
environment of a program, each sealed with a key of its own. Whoever has keys gives them as a list
with commas; the first one that opens its part of the vault decides. All this is as `dotenv` has it
in the version 16.6.1.
-/

namespace NodeProbe.Vault

/-- The variable that holds the part for an environment. -/
def partName (environment : Text) : Text :=
  "DOTENV_VAULT_" ++ environment.upper

/-- The octets of a nonce. -/
def nonceLength : Nat := 12

/-- The octets of a tag. -/
def tagLength : Nat := 16

/-- Opens a part: a nonce, a sealed message and its tag. -/
def unsealPart (secret part : Bytes) : Option Bytes :=
  if part.length < nonceLength + tagLength then none
  else
    let behind := part.drop nonceLength
    let size := behind.length - tagLength
    Cipher.unseal? secret (part.take nonceLength) (behind.take size) (behind.drop size)

/-- Opens the part of a vault that one key is for. -/
def openWith (bindings : List (Text × Text)) (key : VaultKey) : Option String := do
  let part ← bindings.lookup (partName key.environment)
  let secret ← key.octets
  let content ← unsealPart secret (Text.Base64.decodeLenient part.toString)
  return Text.Utf8.decode content

/-- The keys in a list with commas. -/
def keysOf (keys : Text) : List String :=
  (keys.chars.splitOn ',').map fun cs => String.ofList (Text.trimChars cs)

/-- Opens a vault, and reads the environment file that is in it. -/
def unlock (keys : Text) (bindings : List (Text × Text)) : Option (List (Text × Text)) :=
  ((keysOf keys).findSome? fun s => (VaultKey.ofText? s).bind (openWith bindings)).map
    EnvFile.bindings

end NodeProbe.Vault
