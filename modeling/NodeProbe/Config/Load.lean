import NodeProbe.Config.EnvLibrary

/-!
# Loading the settings

The environment file is the one that the user names, or the one at a default place below the user's
configuration. A library adds its variables to those of the process. A file that is named must
exist, and one that the library cannot use counts as a file that does not exist.
-/

namespace NodeProbe

/-- How the program calls itself, and the directory of the user for whom it runs. -/
structure Identity where
  package : String
  version : String
  home : String

/-- The name and the version that the program has of itself. -/
def Identity.standard : Identity :=
  ⟨"rpc-extractor", "0.1.0", "/home/user"⟩

/-- The directory of the user, which the environment may name. -/
def Identity.homeIn (identity : Identity) (env : Environment) : String :=
  ((env.get? "HOME").map (·.toString)).getD identity.home

/-- The first of the variables that is not empty. -/
def Environment.firstOf (env : Environment) (keys : List Text) (fallback : String) : String :=
  ((keys.findSome? env.nonEmpty?).map (·.toString)).getD fallback

/-- The environment may give another name, another version and another directory. -/
def Identity.ofEnvironment (env : Environment) : Identity where
  package := env.firstOf ["npm_package_name", "NPM_PACKAGE_NAME"] Identity.standard.package
  version := env.firstOf ["npm_package_version", "NPM_PACKAGE_VERSION"] Identity.standard.version
  home := Identity.standard.homeIn env

/-- Where the environment file is if none is named: in the directory that `env-paths` gives in the
version 3 on Linux. -/
def defaultConfigPath (identity : Identity) (env : Environment) : String :=
  let base := env.firstOf ["XDG_CONFIG_HOME"] (joinPath [identity.home, ".config"])
  joinPath [joinPath [base, identity.package], identity.package ++ ".env"]

/-! ## Loading -/

/-- What the program starts from: the settings or why there are none, the environment with the
variables of the file, and what was printed. -/
structure Loaded where
  outcome : Except ConfigFault Settings
  environment : Environment
  printed : List Line

/-- How the settings are loaded. -/
structure LoadOptions where
  /-- The file that the user names. -/
  path : Option Text
  quiet : Bool

/-- Reads the settings and reports them. -/
def Loaded.of (env : Environment) (path : Text) (quiet : Bool) (printed : List Line) : Loaded :=
  let outcome := Settings.ofEnvironment env
  let more :=
    match outcome with
    | .ok settings =>
      if quiet then []
      else [.log ("CONFIGURATION (reading from " ++ path ++ "):\n" ++ settings.report ++ "\n")]
    | .error _ => []
  ⟨outcome, env, printed ++ more⟩

/-- Loads the settings. -/
def loadSettings (library : EnvLibrary) (identity : Identity) (files : Files) (env : Environment)
    (options : LoadOptions) : Loaded :=
  let path := options.path.getD ↑(defaultConfigPath identity env)
  let file : Extended :=
    if files.isThere path then library.config env (identity.homeIn env) files path
    else ⟨env, [], false⟩
  if file.isUsable then .of file.environment path options.quiet file.printed
  else if (options.path.filter (!·.isEmpty)).isSome then
    ⟨.error (.fileNotFound path), file.environment, file.printed⟩
  else
    .of file.environment path options.quiet (file.printed ++
      if options.quiet then []
      else [.log ("No config file at " ++ path ++ ", using environment variables only")])

end NodeProbe
