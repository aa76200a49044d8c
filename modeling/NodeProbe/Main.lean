import NodeProbe.CommandLine.Basic

/-!
# The program

Gathers what the command line is to know of the world, answers it, and prints the answer. There is
no network here, so that a server ends when it tries to reach the bus.
-/

namespace NodeProbe

/-- The variables that the program looks at. -/
def relevantVariables : List String :=
  (Settings.variableNames ++ [vaultKeysName]).map (·.toString) ++
    ["HOME", "XDG_CONFIG_HOME", "npm_package_name", "NPM_PACKAGE_NAME", "npm_package_version",
      "NPM_PACKAGE_VERSION"]

/-- Reads the variables of the process. -/
def readEnvironment : IO Environment := do
  let found ← relevantVariables.mapM fun key => return (key, ← IO.getEnv key)
  return ⟨found.filterMap fun (key, value) => value.map fun v => ((key : Text), (v : Text))⟩

/-- What an open file holds. What can be opened and not read is a directory. -/
def readOpened (handle : IO.FS.Handle) : IO Entry :=
  tryCatch (return .file (← handle.readBinToEnd).toList) fun _ => return .directory

/-- What a path leads to, if it leads to something. -/
def readEntry (path : String) : IO (Option Entry) :=
  tryCatch (return some (← readOpened (← IO.FS.Handle.mk path .read))) fun _ => return none

/-- Takes a file into the table, if it is there. -/
def withFile (files : Files) (path : Text) : IO Files := do
  match ← readEntry path.toString with
  | some entry => return files.put path.toString entry
  | none => return files

/-- The files that a request is about: the environment file and its vault, and the file with the
password for the bus. -/
def gatherFiles (identity : Identity) (env : Environment) : CommandLine.Request → IO Files
  | .serve configFile => do
    let options : LoadOptions := ⟨(configFile.filter (· ≠ "")).map Text.ofString, true⟩
    let path := options.path.getD (defaultConfigPath identity env)
    let home := identity.homeIn env
    let paths := [path, vaultPath path].flatMap fun p => [p, ↑(expandTilde home p.toString)]
    let files ← paths.foldlM withFile .empty
    match (loadSettings .standard identity files env options).outcome with
    | .ok settings =>
      match settings.busPasswordFile with
      | some path => withFile files path
      | none => return files
    | .error _ => return files
  | _ => return .empty

end NodeProbe

open NodeProbe in
/-- Runs the command line. -/
def main (args : List String) : IO UInt32 := do
  let env ← readEnvironment
  let identity := Identity.ofEnvironment env
  let files ← gatherFiles identity env (.ofArguments args)
  let around : Surroundings :=
    { identity
      broker := .of files .noRoute
      node := .remote files none
      occupied := none
      anyPort := "0"
      epoch := 0 }
  let output := CommandLine.run around files env args
  IO.print output.stdout
  IO.eprint output.stderr
  return output.code.toUInt32
