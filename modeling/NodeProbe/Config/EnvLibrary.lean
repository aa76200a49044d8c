import NodeProbe.Config.Settings
import NodeProbe.Config.Vault
import NodeProbe.Files
import NodeProbe.Output

/-!
# Libraries that load environment files

Environment files are loaded by a library. The program knows no more of it than `EnvLibrary` says,
and the library may be any. `EnvLibrary.standard` stands for `dotenv` in the version 16.6.1, from
which the pattern of a line, the vaults and the wording are taken; another version may read and
print something else. If the environment has keys of a vault and there is one beside the file, the
vault takes the place of the file, and one that cannot be opened makes loading fail. A tilde in
front of a path stands for the directory of the user.
-/

namespace NodeProbe

/-- An environment with the variables of a file, what was printed, and whether the file could be
used. -/
structure Extended where
  environment : Environment
  printed : List Line
  isUsable : Bool

/-- A library that loads environment files. -/
structure EnvLibrary where
  /-- The variables that a file with this content sets. -/
  parse : String → List (Text × Text)
  /-- What becomes of an environment when the file at a path is loaded, where the directory of the
  user and the files are given. -/
  config : Environment → String → Files → Text → Extended

/-- What a path means in which a tilde in front stands for the directory of the user. -/
def expandTilde (home path : String) : String :=
  match path.toList with
  | '~' :: below => joinPath [home, String.ofList below]
  | _ => path

/-- The variables of the environment file. -/
def fileVariables (home : String) (files : Files) (path : Text) : List (Text × Text) :=
  match files.readText (expandTilde home path.toString) with
  | .ok content => EnvFile.bindings content
  | .error _ => []

/-- The variable that holds the keys of a vault. -/
def vaultKeysName : Text := "DOTENV_KEY"

/-- What the name of a vault ends in. -/
def vaultMark : Text := ".vault"

/-- The vault that belongs to an environment file. -/
def vaultPath (path : Text) : Text :=
  if vaultMark.units.isSuffixOf path.units then path else path ++ vaultMark

/-- What is printed when there are keys and no vault. -/
def missingVault : Line :=
  .log ("[dotenv@16.6.1][WARN] You set DOTENV_KEY but you are missing a .env.vault file at null." ++
    " Did you forget to build it?")

/-- Adds the variables of an environment file that exists, or those of the vault beside it. The
variables of the vault itself are added too. -/
def Environment.load (env : Environment) (home : String) (files : Files) (path : Text) : Extended :=
  match env.nonEmpty? vaultKeysName with
  | none => ⟨env.extend (fileVariables home files path), [], true⟩
  | some keys =>
    if files.isThere (vaultPath path) then
      let bindings := fileVariables home files (vaultPath path)
      match Vault.unlock keys bindings with
      | some more => ⟨(env.extend bindings).extend more, [], true⟩
      | none => ⟨env.extend bindings, [], false⟩
    else ⟨env.extend (fileVariables home files path), [missingVault], true⟩

/-- The library `dotenv` in the version 16.6.1. -/
def EnvLibrary.standard : EnvLibrary where
  parse := EnvFile.bindings
  config := Environment.load

end NodeProbe
