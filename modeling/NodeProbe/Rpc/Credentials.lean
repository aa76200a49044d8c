import NodeProbe.Fault
import NodeProbe.Files
import NodeProbe.Text.Base64
import NodeProbe.Text.Blank

/-!
# Credentials

A call to the node carries a user and a password. They come from the cookie file if one is named:
its trimmed content up to the first colon is the user, and what follows is the password. The file is
read for every call, and nothing stands in for it. Without a cookie file there must be a user and a
password in the settings.
-/

namespace NodeProbe

/-- How the node is reached. -/
structure NodeAccess where
  host : Text
  cookieFile : Option Text
  user : Option Text
  password : Option Text

/-- A user and a password. -/
structure Credentials where
  user : Text
  password : Text
  deriving DecidableEq, Repr

namespace Credentials

/-- Cuts at the first colon; in front of it there must be something. -/
def split? (cs : List Char) : Option Credentials :=
  match cs.takeWhile (· ≠ ':'), cs.dropWhile (· ≠ ':') with
  | [], _ | _, [] => none
  | user, _ :: password => some ⟨.ofChars user, .ofChars password⟩

/-- The credentials in a cookie file. -/
def ofCookie (files : Files) (file : Text) : Except AuthCause Credentials :=
  match files.readText file with
  | .error fault => .error (.unreadableCookie file fault.message)
  | .ok content =>
    match split? (Text.trimChars content.toList) with
    | some credentials => .ok credentials
    | none => .error (.malformedCookie file)

/-- The credentials for the next call. Names that are empty count as absent. -/
def resolve (files : Files) (access : NodeAccess) : Except AuthCause Credentials :=
  match access.cookieFile.filter (!·.isEmpty) with
  | some file => ofCookie files file
  | none =>
    match access.user.filter (!·.isEmpty), access.password with
    | some user, some password => .ok ⟨user, password⟩
    | _, _ => .error .noCredentials

/-- The text of the credentials. -/
def joined (c : Credentials) : Text :=
  c.user ++ ":" ++ c.password

/-- The value of the header that carries the credentials. -/
def header (c : Credentials) : String :=
  "Basic " ++ Text.Base64.encode c.joined.utf8

end Credentials

end NodeProbe
