import NodeProbe.Config.Load
import NodeProbe.Proofs.Text.Pieces

/-!
# Which value counts

A variable of the process counts before one of the environment file, also if its value is empty;
`Environment.IsMerged` says so of the environment that comes out. The settings depend on the values
of their variables alone (`Settings.ofEnvironment_congr`), so that the outcome of loading follows
from the process and the variables of the file: two files that agree where the process has nothing
lead to the same settings (`keepsPrecedence`). The library that loads the file may be any that does
what its documents say (`EnvLibrary.IsDocumented`), as the standard one does
(`EnvLibrary.isDocumented_standard`).

This is so where the file at the path is the one that is loaded (`Environment.UsesFile`). A vault
takes the place of the file, and a path with a tilde in front is looked for as it stands and read
below the directory of the user; then the outcome does not follow from the file at the path
(`not_followsFrom_file`).
-/

namespace NodeProbe

/-! ## Merging -/

namespace Environment

/-- The variables of one environment, and of others those that it does not have. A process keeps a
value up to its first NUL. -/
def IsMerged (env : Environment) (more : List (Text × Text)) (merged : Environment) : Prop :=
  ∀ key, merged.get? key = (env.get? key).or ((more.lookup key).map untilNul)

theorem lookup_missing {env : Environment} {key : Text} (h : env.get? key = none)
    (more : List (Text × Text)) :
    ((more.filter fun v => (env.get? v.1).isNone).map fun (key, value) =>
      (key, untilNul value)).lookup key = (more.lookup key).map untilNul := by
  induction more with
  | nil => rfl
  | cons v more ih =>
    obtain ⟨name, value⟩ := v
    rw [List.filter_cons, List.lookup_cons]
    by_cases hname : key = name
    · subst hname
      simp only [h, Option.isNone_none, if_true, List.map_cons, List.lookup_cons_self,
        beq_self_eq_true, Option.map_some]
    · have hother : (key == name) = false := beq_false_of_ne hname
      split <;> simp only [List.map_cons, List.lookup_cons, hother, ih]

theorem get?_extend (env : Environment) (more : List (Text × Text)) (key : Text) :
    (env.extend more).get? key = (env.get? key).or ((more.lookup key).map untilNul) := by
  unfold extend
  rw [get?, List.lookup_append, ← get?]
  cases h : env.get? key with
  | none => rw [Option.none_or, Option.none_or, lookup_missing h]
  | some value => rfl

theorem isMerged_extend (env : Environment) (more : List (Text × Text)) :
    env.IsMerged more (env.extend more) :=
  get?_extend env more

/-- What the process has comes first. -/
theorem IsMerged.get?_eq_some {env merged : Environment} {more : List (Text × Text)}
    {key value : Text} (h : env.IsMerged more merged) (hvalue : env.get? key = some value) :
    merged.get? key = some value := by
  rw [h, hvalue, Option.some_or]

/-- What is added counts only where there was nothing. -/
theorem IsMerged.unique {env merged merged' : Environment} {more more' : List (Text × Text)}
    (h : env.IsMerged more merged) (h' : env.IsMerged more' merged')
    (hagree : ∀ key, env.get? key = none → more.lookup key = more'.lookup key) (key : Text) :
    merged.get? key = merged'.get? key := by
  rw [h, h']
  cases hkey : env.get? key with
  | none => rw [hagree key hkey]
  | some value => rfl

end Environment

/-! ## Reading -/

/-- Both texts are missing, both are empty, or neither is. -/
def SameForm (a b : Option Text) : Prop :=
  a.map Text.isEmpty = b.map Text.isEmpty

instance (a b : Option Text) : Decidable (SameForm a b) :=
  inferInstanceAs (Decidable (_ = _))

theorem SameForm.isSome_filter_eq {a b : Option Text} (h : SameForm a b) :
    (a.filter (!·.isEmpty)).isSome = (b.filter (!·.isEmpty)).isSome := by
  have hform (t : Option Text) :
      (t.filter (!·.isEmpty)).isSome = ((t.map Text.isEmpty).map (!·)).getD false := by
    cases t with
    | none => rfl
    | some t => cases ht : t.isEmpty <;> simp [Option.filter, ht]
  rw [hform, hform, h]

namespace Settings

section Congr

variable {env env' : Environment} {key : Text}

theorem nonEmpty?_congr (h : env.get? key = env'.get? key) :
    env.nonEmpty? key = env'.nonEmpty? key := by
  rw [Environment.nonEmpty?, h, ← Environment.nonEmpty?]

theorem readAddress_congr (h : env.get? key = env'.get? key) (standard : Text) :
    readAddress env key standard = readAddress env' key standard := by
  rw [readAddress, nonEmpty?_congr h, ← readAddress]

theorem readPositive_congr (h : env.get? key = env'.get? key) (standard : Text) :
    readPositive env key standard = readPositive env' key standard := by
  rw [readPositive, h, ← readPositive]

theorem readSubject_congr (h : env.get? key = env'.get? key) :
    readSubject env key = readSubject env' key := by
  rw [readSubject, nonEmpty?_congr h, ← readSubject]

theorem isSwitchedOff_congr {m : Method}
    (h : env.get? (switchKey m.name) = env'.get? (switchKey m.name)) :
    isSwitchedOff env m = isSwitchedOff env' m := by
  rw [isSwitchedOff, h, ← isSwitchedOff]

end Congr

/-- The settings with the secrets of another environment. -/
def withSecrets (s : Settings) (env : Environment) : Settings :=
  { s with
    rpcPassword := env.get? "RPC_PASSWORD"
    bearerToken := env.nonEmpty? "METRICS_BEARER_TOKEN"
    busPassword := env.get? "NATS_PASSWORD" }

theorem switchKey_notMem_secretKeys (method : Text) : switchKey method ∉ secretKeys := by
  have hhead : (switchKey method).units.head? = some (Text.unit 'D') := rfl
  have hsecret : ∀ key ∈ secretKeys, key.units.head? ≠ some (Text.unit 'D') := by decide
  exact fun h => hsecret _ h hhead

/-- The secrets are kept as they are, and of the password of the node no more than its form decides
whether there are settings. -/
theorem ofEnvironment_eq_withSecrets {env env' : Environment}
    (h : ∀ key ∈ variableNames, key ∉ secretKeys → env.get? key = env'.get? key)
    (hform : SameForm (env.get? "RPC_PASSWORD") (env'.get? "RPC_PASSWORD")) :
    ofEnvironment env' = (·.withSecrets env') <$> ofEnvironment env := by
  have hdisabled : Method.all.filter (isSwitchedOff env) = Method.all.filter (isSwitchedOff env') :=
    List.filter_congr fun m hm => isSwitchedOff_congr <|
      h _ (List.mem_append_right _ (List.mem_map.mpr ⟨m, hm, rfl⟩)) (switchKey_notMem_secretKeys _)
  have hcredentials (cookieFile user : Option Text) :
      hasCredentials cookieFile user (env.get? "RPC_PASSWORD") =
        hasCredentials cookieFile user (env'.get? "RPC_PASSWORD") := by
    rw [hasCredentials, hform.isSome_filter_eq, ← hasCredentials]
  unfold ofEnvironment
  simp only [map_bind, ← hdisabled, ← hcredentials,
    ← readAddress_congr (h "RPC_HOST" (by simp [variableNames]) (by decide)),
    ← readPositive_congr (h "RPC_TIMEOUT_MS" (by simp [variableNames]) (by decide)),
    ← readPositive_congr (h "QUERY_INTERVAL_SECONDS" (by simp [variableNames]) (by decide)),
    ← readAddress_congr (h "METRICS_ADDRESS" (by simp [variableNames]) (by decide)),
    ← readAddress_congr (h "NATS_ADDRESS" (by simp [variableNames]) (by decide)),
    ← readSubject_congr (h "NATS_SUBJECT_PREFIX" (by simp [variableNames]) (by decide)),
    ← nonEmpty?_congr (h "RPC_COOKIE_FILE" (by simp [variableNames]) (by decide)),
    ← nonEmpty?_congr (h "RPC_USER" (by simp [variableNames]) (by decide)),
    ← nonEmpty?_congr (h "NATS_USERNAME" (by simp [variableNames]) (by decide)),
    ← nonEmpty?_congr (h "NATS_PASSWORD_FILE" (by simp [variableNames]) (by decide))]
  simp only [apply_ite]
  rfl

/-- The settings depend on the values of their variables alone. -/
theorem ofEnvironment_congr {env env' : Environment}
    (h : ∀ key ∈ variableNames, env.get? key = env'.get? key) :
    ofEnvironment env = ofEnvironment env' := by
  have hsecrets (s : Settings) : s.withSecrets env = s.withSecrets env' := by
    rw [withSecrets, h "RPC_PASSWORD" (by simp [variableNames]),
      nonEmpty?_congr (h "METRICS_BEARER_TOKEN" (by simp [variableNames])),
      h "NATS_PASSWORD" (by simp [variableNames]), ← withSecrets]
  calc ofEnvironment env
      = (·.withSecrets env) <$> ofEnvironment env :=
        ofEnvironment_eq_withSecrets (fun _ _ _ => rfl) rfl
    _ = (·.withSecrets env') <$> ofEnvironment env := by simp only [hsecrets]
    _ = ofEnvironment env' :=
        (ofEnvironment_eq_withSecrets (fun key hkey _ => h key hkey)
          (congrArg _ (h "RPC_PASSWORD" (by simp [variableNames])))).symm

end Settings

/-! ## What is loaded -/

/-- The keys of a vault that take effect: those in the environment, if there is a vault. -/
def vaultKeys? (files : Files) (env : Environment) (path : Text) : Option Text :=
  (env.nonEmpty? vaultKeysName).filter fun _ => files.isThere (vaultPath path)

/-- The file at a path is loaded as it stands: no vault takes its place, and there is no tilde in
front of the path. -/
structure Environment.UsesFile (env : Environment) (files : Files) (path : Text) : Prop where
  unkeyed : vaultKeys? files env path = none
  plain : path.toString.toList.head? ≠ some '~'

namespace EnvLibrary

/-- The variables in the file at a path; there are none if it cannot be read. -/
def bindingsAt (library : EnvLibrary) (files : Files) (path : Text) : List (Text × Text) :=
  match files.readText path with
  | .ok content => library.parse content
  | .error _ => []

/-- What the documents of such a library promise. -/
structure IsDocumented (library : EnvLibrary) : Prop where
  /-- A variable that is set already is never modified. -/
  keeps : ∀ {env : Environment} (home : String) (files : Files) (path : Text) {key value : Text},
    env.get? key = some value →
      (library.config env home files path).environment.get? key = some value
  /-- A variable that is not set gets the value that is parsed for it, as a process keeps it; if
  there is none it stays without one. -/
  sets : ∀ {env : Environment} (home : String) {files : Files} {path : Text} {content : String}
    {key : Text}, env.UsesFile files path → files.readText path = .ok content →
      env.get? key = none → (library.config env home files path).environment.get? key =
        ((library.parse content).lookup key).map Environment.untilNul
  /-- A file that cannot be read sets nothing. -/
  skips : ∀ {env : Environment} (home : String) {files : Files} {path : Text} {fault : FileFault}
    {key : Text}, env.UsesFile files path → files.readText path = .error fault →
      env.get? key = none → (library.config env home files path).environment.get? key = none
  /-- Loading a file does not fail, also if it cannot be read. -/
  returns : ∀ {env : Environment} (home : String) {files : Files} {path : Text},
    env.UsesFile files path → (library.config env home files path).isUsable = true

section Documented

variable {library : EnvLibrary} {env : Environment} {files : Files} {path : Text}

theorem IsDocumented.isMerged (h : library.IsDocumented) (home : String)
    (hfile : env.UsesFile files path) :
    env.IsMerged (library.bindingsAt files path)
      (library.config env home files path).environment := by
  intro key
  cases hkey : env.get? key with
  | some value => rw [h.keeps home files path hkey, Option.some_or]
  | none =>
    rw [Option.none_or, bindingsAt]
    cases hread : files.readText path with
    | ok content => exact h.sets home hfile hread hkey
    | error fault => exact h.skips home hfile hread hkey

end Documented

end EnvLibrary

/-! ## The standard library -/

section Load

variable {env : Environment} {home : String} {files : Files} {path keys : Text}
  {more : List (Text × Text)}

theorem bindingsAt_mended (files : Files) (path : Text) :
    EnvLibrary.standard.bindingsAt files path.toString =
      EnvLibrary.standard.bindingsAt files path := by
  have hfind : files.find (Text.ofString path.toString).toString = files.find path.toString := by
    rw [Text.toString_ofString]
  unfold EnvLibrary.bindingsAt Files.readText Files.read
  rw [hfind]
  cases files.find path.toString with
  | error obstacle => cases obstacle <;> rfl
  | ok entry => cases entry <;> rfl

theorem fileVariables_eq (home : String) (files : Files) (path : Text) :
    fileVariables home files path =
      EnvLibrary.standard.bindingsAt files (expandTilde home path.toString) := by
  unfold fileVariables EnvLibrary.bindingsAt
  cases files.readText (expandTilde home path.toString) <;> rfl

theorem fileVariables_of_head?_ne (h : path.toString.toList.head? ≠ some '~') (home : String) :
    fileVariables home files path = EnvLibrary.standard.bindingsAt files path := by
  have hplain : expandTilde home path.toString = path.toString := by
    unfold expandTilde
    split
    · rename_i heq
      exact absurd (congrArg List.head? heq) h
    · rfl
  rw [fileVariables_eq, hplain, bindingsAt_mended]

theorem load_of_vaultKeys?_eq_none (home : String) (h : vaultKeys? files env path = none) :
    (env.load home files path).environment = env.extend (fileVariables home files path) ∧
      (env.load home files path).isUsable = true := by
  unfold Environment.load
  unfold vaultKeys? at h
  split
  · exact ⟨rfl, rfl⟩
  · rename_i keys hkeys
    rw [hkeys, Option.filter_eq_none_iff] at h
    rw [if_neg (h keys rfl)]
    exact ⟨rfl, rfl⟩

theorem load_of_vaultKeys?_eq_some (h : vaultKeys? files env path = some keys) :
    env.load home files path =
      let bindings := fileVariables home files (vaultPath path)
      match Vault.unlock keys bindings with
      | some more => ⟨(env.extend bindings).extend more, [], true⟩
      | none => ⟨env.extend bindings, [], false⟩ := by
  obtain ⟨hkeys, hvault⟩ := Option.filter_eq_some_iff.mp h
  unfold Environment.load
  rw [hkeys]
  exact if_pos hvault

theorem load_of_unlock_eq_some (h : vaultKeys? files env path = some keys)
    (hopened : Vault.unlock keys (fileVariables home files (vaultPath path)) = some more) :
    env.load home files path =
      ⟨(env.extend (fileVariables home files (vaultPath path))).extend more, [], true⟩ := by
  simp only [load_of_vaultKeys?_eq_some h, hopened]

theorem load_of_unlock_eq_none (h : vaultKeys? files env path = some keys)
    (hsealed : Vault.unlock keys (fileVariables home files (vaultPath path)) = none) :
    env.load home files path =
      ⟨env.extend (fileVariables home files (vaultPath path)), [], false⟩ := by
  simp only [load_of_vaultKeys?_eq_some h, hsealed]

/-- However the file is loaded, the variables of the process are still there. -/
theorem get?_load {key value : Text} (h : env.get? key = some value) :
    (env.load home files path).environment.get? key = some value := by
  cases hkeys : vaultKeys? files env path with
  | none =>
    rw [(load_of_vaultKeys?_eq_none home hkeys).1]
    exact (env.isMerged_extend _).get?_eq_some h
  | some keys =>
    have hvault := (env.isMerged_extend (fileVariables home files (vaultPath path))).get?_eq_some h
    cases hunlock : Vault.unlock keys (fileVariables home files (vaultPath path)) with
    | none =>
      rw [load_of_unlock_eq_none hkeys hunlock]
      exact hvault
    | some more =>
      rw [load_of_unlock_eq_some hkeys hunlock]
      exact (Environment.isMerged_extend _ more).get?_eq_some hvault

/-- A file that is used as it stands sets its variables and no others. -/
theorem Environment.UsesFile.get?_load (h : env.UsesFile files path) (home : String) {key : Text}
    (hkey : env.get? key = none) : (env.load home files path).environment.get? key =
      ((EnvLibrary.standard.bindingsAt files path).lookup key).map untilNul := by
  rw [(load_of_vaultKeys?_eq_none home h.unkeyed).1, fileVariables_of_head?_ne h.plain,
    get?_extend, hkey, Option.none_or]

theorem EnvLibrary.isDocumented_standard : EnvLibrary.standard.IsDocumented where
  keeps _ _ _ _ _ := get?_load
  sets home _ _ _ _ hfile hread hkey := by
    refine (hfile.get?_load home hkey).trans ?_
    rw [bindingsAt, hread]
  skips home _ _ _ _ hfile hread hkey := by
    refine (hfile.get?_load home hkey).trans ?_
    rw [bindingsAt, hread]
    rfl
  returns home _ _ hfile := (load_of_vaultKeys?_eq_none home hfile.unkeyed).2

end Load

/-! ## Loading -/

/-- The file that is looked for. -/
def LoadOptions.pathIn (options : LoadOptions) (identity : Identity) (env : Environment) : Text :=
  options.path.getD ↑(defaultConfigPath identity env)

/-- A file is named, if not by the empty name. -/
def LoadOptions.isNamed (options : LoadOptions) : Bool :=
  (options.path.filter (!·.isEmpty)).isSome

/-- What comes of the environment file. -/
def LoadOptions.extend (options : LoadOptions) (library : EnvLibrary) (identity : Identity)
    (files : Files) (env : Environment) : Extended :=
  if files.isThere (options.pathIn identity env) then
    library.config env (identity.homeIn env) files (options.pathIn identity env)
  else ⟨env, [], false⟩

section Outcome

variable {library : EnvLibrary} {identity : Identity} {files files' : Files} {env : Environment}
  {options options' : LoadOptions} {bindings : List (Text × Text)}

theorem loadSettings_eq (library : EnvLibrary) (identity : Identity) (files : Files)
    (env : Environment) (options : LoadOptions) :
    loadSettings library identity files env options =
      let file := options.extend library identity files env
      let path := options.pathIn identity env
      if file.isUsable then .of file.environment path options.quiet file.printed
      else if options.isNamed then ⟨.error (.fileNotFound path), file.environment, file.printed⟩
      else
        .of file.environment path options.quiet (file.printed ++
          if options.quiet then []
          else [.log ("No config file at " ++ path ++ ", using environment variables only")]) :=
  rfl

theorem outcome_loadSettings (library : EnvLibrary) (identity : Identity) (files : Files)
    (env : Environment) (options : LoadOptions) :
    (loadSettings library identity files env options).outcome =
      if !(options.extend library identity files env).isUsable && options.isNamed then
        .error (.fileNotFound (options.pathIn identity env))
      else Settings.ofEnvironment (options.extend library identity files env).environment := by
  rw [loadSettings_eq]
  dsimp only
  cases (options.extend library identity files env).isUsable <;> cases options.isNamed <;> rfl

theorem environment_loadSettings (library : EnvLibrary) (identity : Identity) (files : Files)
    (env : Environment) (options : LoadOptions) :
    (loadSettings library identity files env options).environment =
      (options.extend library identity files env).environment := by
  rw [loadSettings_eq]
  dsimp only
  cases (options.extend library identity files env).isUsable <;> cases options.isNamed <;> rfl

theorem outcome_of_isUsable (hthere : files.isThere (options.pathIn identity env))
    (husable : (library.config env (identity.homeIn env) files
      (options.pathIn identity env)).isUsable = true) :
    (loadSettings library identity files env options).outcome = Settings.ofEnvironment
      (library.config env (identity.homeIn env) files
        (options.pathIn identity env)).environment := by
  rw [outcome_loadSettings, LoadOptions.extend, if_pos hthere, husable]
  rfl

theorem outcome_of_not_isThere (h : ¬ files.isThere (options.pathIn identity env)) :
    (loadSettings library identity files env options).outcome =
      if options.isNamed then .error (.fileNotFound (options.pathIn identity env))
      else Settings.ofEnvironment env := by
  rw [outcome_loadSettings, LoadOptions.extend, if_neg h]
  rfl

/-- The settings are the same in every merged environment. -/
theorem Environment.IsMerged.ofEnvironment_eq {merged merged' : Environment}
    (h : env.IsMerged bindings merged) (h' : env.IsMerged bindings merged') :
    Settings.ofEnvironment merged = Settings.ofEnvironment merged' :=
  Settings.ofEnvironment_congr fun key _ => h.unique h' (fun _ _ => rfl) key

/-- The outcome follows from the process and these variables of the environment file. -/
def FollowsFrom (bindings : List (Text × Text)) (library : EnvLibrary) (identity : Identity)
    (files : Files) (env : Environment) (options : LoadOptions) : Prop :=
  ∀ merged, env.IsMerged bindings merged →
    (loadSettings library identity files env options).outcome = Settings.ofEnvironment merged

theorem EnvLibrary.IsDocumented.followsFrom (h : library.IsDocumented)
    (hthere : files.isThere (options.pathIn identity env))
    (hfile : env.UsesFile files (options.pathIn identity env)) :
    FollowsFrom (library.bindingsAt files (options.pathIn identity env)) library identity files env
      options := by
  intro merged hmerged
  rw [outcome_of_isUsable hthere (h.returns _ hfile)]
  exact (h.isMerged _ hfile).ofEnvironment_eq hmerged

theorem FollowsFrom.congr {bindings' : List (Text × Text)}
    (h : FollowsFrom bindings library identity files env options)
    (h' : FollowsFrom bindings' library identity files' env options')
    (hagree : ∀ key, env.get? key = none → bindings.lookup key = bindings'.lookup key) :
    (loadSettings library identity files env options).outcome =
      (loadSettings library identity files' env options').outcome := by
  rw [h _ (env.isMerged_extend bindings), h' _ (env.isMerged_extend bindings')]
  exact Settings.ofEnvironment_congr fun key _ =>
    (env.isMerged_extend bindings).unique (env.isMerged_extend bindings') hagree key

theorem FollowsFrom.isOk_outcome (h : FollowsFrom bindings library identity files env options)
    (hread : (Settings.ofEnvironment (env.extend bindings)).isOk = true) :
    (loadSettings library identity files env options).outcome.isOk = true := by
  rw [h _ (env.isMerged_extend bindings)]
  exact hread

/-- What can be relied on, whatever the process and the files are. -/
structure KeepsPrecedence (library : EnvLibrary) (identity : Identity) (files : Files)
    (env : Environment) (options : LoadOptions) : Prop where
  /-- What the process has comes first, also if it is empty. -/
  process : ∀ key value, env.get? key = some value →
    (loadSettings library identity files env options).environment.get? key = some value
  /-- If the file is there, the outcome follows from it. -/
  there : files.isThere (options.pathIn identity env) →
    env.UsesFile files (options.pathIn identity env) →
      FollowsFrom (library.bindingsAt files (options.pathIn identity env)) library identity files
        env options
  /-- If it is not there, it must not have been named, and the process alone counts. -/
  missing : ¬ files.isThere (options.pathIn identity env) →
    (loadSettings library identity files env options).outcome =
      if options.isNamed then .error (.fileNotFound (options.pathIn identity env))
      else Settings.ofEnvironment env
  /-- Two files that agree where the process has nothing come to the same, wherever they are. -/
  same : ∀ files' options', files.isThere (options.pathIn identity env) →
    files'.isThere (options'.pathIn identity env) →
    env.UsesFile files (options.pathIn identity env) →
    env.UsesFile files' (options'.pathIn identity env) →
    (∀ key, env.get? key = none →
      (library.bindingsAt files (options.pathIn identity env)).lookup key =
        (library.bindingsAt files' (options'.pathIn identity env)).lookup key) →
      (loadSettings library identity files env options).outcome =
        (loadSettings library identity files' env options').outcome

/-- **What the process has counts before the environment file, and nothing else counts,** if the
library does what its documents say. -/
theorem keepsPrecedence (h : library.IsDocumented) (identity : Identity) (files : Files)
    (env : Environment) (options : LoadOptions) :
    KeepsPrecedence library identity files env options where
  process key value hkey := by
    rw [environment_loadSettings, LoadOptions.extend]
    split
    · exact h.keeps _ _ _ hkey
    · exact hkey
  there := h.followsFrom
  missing := outcome_of_not_isThere
  same _ _ hthere hthere' hfile hfile' :=
    (h.followsFrom hthere hfile).congr (h.followsFrom hthere' hfile')

end Outcome

/-- The process has a user for the node, and an empty host. -/
def partlySet : Environment :=
  ⟨[("RPC_HOST", ""), ("RPC_USER", "u")]⟩

/-- The environment file has a host, another user and a password. -/
def fullFile : Files :=
  Files.empty.put "c.env" (.file (Text.Utf8.encode "RPC_HOST=a:1\nRPC_USER=v\nRPC_PASSWORD=p"))

/-- The user is that of the process and the password that of the file. The host is empty in the
process, so that the one of the file does not count. -/
theorem keepsPrecedence_partlySet :
    EnvLibrary.standard.IsDocumented ∧ fullFile.isThere "c.env" = true ∧
      partlySet.UsesFile fullFile "c.env" ∧
      KeepsPrecedence .standard .standard fullFile partlySet ⟨some "c.env", false⟩ ∧
      (loadSettings .standard .standard fullFile partlySet
        ⟨some "c.env", false⟩).outcome.toOption.map
          (fun s => (s.rpcHost.text, s.rpcUser, s.rpcPassword)) =
        some (("127.0.0.1:8332" : Text), some ("u" : Text), some ("p" : Text)) := by
  have hthere : fullFile.isThere "c.env" = true := by decide +kernel
  have hfile : partlySet.UsesFile fullFile "c.env" := ⟨by decide +kernel, by decide +kernel⟩
  have hkeeps := keepsPrecedence EnvLibrary.isDocumented_standard .standard fullFile partlySet
    ⟨some "c.env", false⟩
  refine ⟨EnvLibrary.isDocumented_standard, hthere, hfile, hkeeps, ?_⟩
  rw [hkeeps.there hthere hfile _ (Environment.isMerged_extend _ _)]
  decide +kernel

/-! ## What the file is not -/

namespace Vault

/-- Between the nonce and the tag there is nothing. -/
theorem eq_nil_of_unsealPart {secret part message : Bytes}
    (hlength : part.length = nonceLength + tagLength) (h : unsealPart secret part = some message) :
    message = [] := by
  have hsize : (part.drop nonceLength).length - tagLength = 0 := by
    rw [List.length_drop, hlength]
    rfl
  unfold unsealPart at h
  rw [if_neg (by omega)] at h
  simp only [hsize, List.take_zero, Cipher.unseal?] at h
  split at h
  · exact (Option.some.inj h).symm
  · cases h

/-- A vault whose parts hold a nonce and a tag alone opens to nothing. -/
theorem eq_nil_of_unlock {keys : Text} {bindings more : List (Text × Text)}
    (hlength : ∀ v ∈ bindings,
      (Text.Base64.decodeLenient v.2.toString).length = nonceLength + tagLength)
    (h : unlock keys bindings = some more) : more = [] := by
  obtain ⟨content, hcontent, rfl⟩ := Option.map_eq_some_iff.mp h
  obtain ⟨s, -, hs⟩ := List.exists_of_findSome?_eq_some hcontent
  obtain ⟨key, -, hopen⟩ := Option.bind_eq_some_iff.mp hs
  obtain ⟨part, hpart, hopen⟩ := Option.bind_eq_some_iff.mp hopen
  obtain ⟨secret, -, hopen⟩ := Option.bind_eq_some_iff.mp hopen
  obtain ⟨message, hmessage, hopen⟩ := Option.bind_eq_some_iff.mp hopen
  obtain ⟨before, behind, rfl, -⟩ := List.lookup_eq_some_iff.mp hpart
  obtain rfl := eq_nil_of_unsealPart
    (hlength _ (List.mem_append_right _ List.mem_cons_self)) hmessage
  obtain rfl : "" = content := Option.some.inj hopen
  rfl

end Vault

/-- The process has the key of a vault. -/
def keyHolder : Environment :=
  ⟨[("DOTENV_KEY", "dotenv://:" ++ ⟨List.replicate 64 (Text.unit '0')⟩ ++ "@h?environment=dev")]⟩

/-- There are credentials in the environment file, and nothing in the vault beside it. -/
def besideVault : Files :=
  (Files.empty.put "c.env" (.file (Text.Utf8.encode "RPC_COOKIE_FILE=c"))).put "c.env.vault"
    (.file (Text.Utf8.encode "DOTENV_VAULT_DEV=AAAAAAAAAAAAAAAAUw+K+8dFNrmpY7TxxMtziw=="))

/-- The process has a directory of the user. -/
def dweller : Environment :=
  ⟨[("HOME", "h")]⟩

/-- There are credentials in the file at a path with a tilde, and nothing in the one at home. -/
def besideHome : Files :=
  (Files.empty.put "~/x" (.file (Text.Utf8.encode "RPC_COOKIE_FILE=c"))).put "h/x" (.file [])

theorem besideVault_fails :
    (loadSettings .standard .standard besideVault keyHolder ⟨some "c.env", false⟩).outcome.isOk =
      false := by
  have hthere : besideVault.isThere "c.env" = true := by decide +kernel
  have hkeys : (vaultKeys? besideVault keyHolder "c.env").isSome = true := by decide +kernel
  obtain ⟨keys, hkeys⟩ := Option.isSome_iff_exists.mp hkeys
  have hload : LoadOptions.extend ⟨some "c.env", false⟩ .standard .standard besideVault keyHolder =
      keyHolder.load (Identity.homeIn .standard keyHolder) besideVault "c.env" := if_pos hthere
  rw [outcome_loadSettings, hload]
  -- Whether the vault opens or not, the credentials are not found.
  cases hunlock : Vault.unlock keys
      (fileVariables (Identity.homeIn .standard keyHolder) besideVault (vaultPath "c.env")) with
  | none =>
    rw [load_of_unlock_eq_none hkeys hunlock]
    rfl
  | some more =>
    have hlength : ∀ v ∈ fileVariables (Identity.homeIn .standard keyHolder) besideVault
        (vaultPath "c.env"), (Text.Base64.decodeLenient v.2.toString).length =
          Vault.nonceLength + Vault.tagLength := by decide +kernel
    obtain rfl := Vault.eq_nil_of_unlock hlength hunlock
    rw [load_of_unlock_eq_some hkeys hunlock]
    decide +kernel

theorem besideHome_fails :
    (loadSettings .standard .standard besideHome dweller ⟨some "~/x", false⟩).outcome.isOk =
      false := by
  decide +kernel

/-- **The outcome need not follow from the file at the path:** there may be a vault beside it, or a
tilde in front of the path. -/
theorem not_followsFrom_file :
    (besideVault.isThere "c.env" = true ∧
        ¬ FollowsFrom (EnvLibrary.standard.bindingsAt besideVault "c.env") .standard .standard
          besideVault keyHolder ⟨some "c.env", false⟩) ∧
      besideHome.isThere "~/x" = true ∧
        ¬ FollowsFrom (EnvLibrary.standard.bindingsAt besideHome "~/x") .standard .standard
          besideHome dweller ⟨some "~/x", false⟩ := by
  refine ⟨⟨by decide +kernel, fun h => ?_⟩, by decide +kernel, fun h => ?_⟩
  · have hread : (Settings.ofEnvironment (keyHolder.extend
      (EnvLibrary.standard.bindingsAt besideVault "c.env"))).isOk = true := by decide +kernel
    cases besideVault_fails.symm.trans (h.isOk_outcome hread)
  · have hread : (Settings.ofEnvironment (dweller.extend
      (EnvLibrary.standard.bindingsAt besideHome "~/x"))).isOk = true := by decide +kernel
    cases besideHome_fails.symm.trans (h.isOk_outcome hread)

end NodeProbe
