import NodeProbe.Extractor
import NodeProbe.Proofs.Config.Precedence

/-!
# Secrets

The passwords and the token reach the log in no way: two starts of the program that differ in what
its secrets are, but not in whether they are there and empty, print the same lines and fail for the
same reason if at all (`keepsSecrets`). What comes out of the environments is taken through every
step of the start as a pair that is `Alike`. The password of the bus may also stand in a file; then
two files come to the same as long as both can be read. The environment file and the vault beside it
are the same for both (`Files.SameSource`), as they are if nothing but the file with the password
differs (`Files.sameSource_of_differAt`).
-/

namespace NodeProbe

/-! ## Forms -/

theorem SameForm.filter {a b : Option Text} (h : SameForm a b) :
    SameForm (a.filter (!·.isEmpty)) (b.filter (!·.isEmpty)) := by
  unfold SameForm at h ⊢
  rcases a with - | a <;> rcases b with - | b <;> simp_all [Option.filter]

theorem SameForm.or {a b : Option Text} (h : SameForm a b) (c : Option Text) :
    SameForm (a.or c) (b.or c) := by
  rcases a with - | a <;> rcases b with - | b <;> first | exact h | rfl | cases h

/-! ## Environments and settings -/

/-- The secrets alone differ, and not in whether they are there and empty. -/
structure Environment.Alike (env env' : Environment) : Prop where
  plain : ∀ key, key ∉ secretKeys → env.get? key = env'.get? key
  secret : ∀ key ∈ secretKeys, SameForm (env.get? key) (env'.get? key)

/-- The secrets alone differ, and not in whether they are there and empty. -/
structure Settings.Alike (s s' : Settings) : Prop where
  plain : s' = { s with
    rpcPassword := s'.rpcPassword, bearerToken := s'.bearerToken, busPassword := s'.busPassword }
  rpcPassword : SameForm s.rpcPassword s'.rpcPassword
  bearerToken : SameForm s.bearerToken s'.bearerToken
  busPassword : SameForm s.busPassword s'.busPassword

/-- Both are settings that are alike, or they are missing for the same reason. -/
def AlikeOutcomes : Except ConfigFault Settings → Except ConfigFault Settings → Prop
  | .ok s, .ok s' => s.Alike s'
  | .error fault, .error fault' => fault = fault'
  | _, _ => False

namespace Environment.Alike

variable {env env' : Environment}

theorem extend (h : env.Alike env') (more : List (Text × Text)) :
    (env.extend more).Alike (env'.extend more) where
  plain key hkey := by rw [get?_extend, get?_extend, h.plain key hkey]
  secret key hkey := by
    rw [get?_extend, get?_extend]
    exact (h.secret key hkey).or _

theorem nonEmpty?_eq (h : env.Alike env') {key : Text} (hkey : key ∉ secretKeys) :
    env.nonEmpty? key = env'.nonEmpty? key :=
  Settings.nonEmpty?_congr (h.plain key hkey)

theorem alike_withSecrets (h : env.Alike env') (s : Settings) :
    (s.withSecrets env).Alike (s.withSecrets env') where
  plain := rfl
  rpcPassword := h.secret _ (by decide)
  bearerToken := (h.secret _ (by decide)).filter
  busPassword := h.secret _ (by decide)

theorem ofEnvironment (h : env.Alike env') :
    AlikeOutcomes (Settings.ofEnvironment env) (Settings.ofEnvironment env') := by
  have hown : Settings.ofEnvironment env = (·.withSecrets env) <$> Settings.ofEnvironment env :=
    Settings.ofEnvironment_eq_withSecrets (fun _ _ _ => rfl) rfl
  have hother := Settings.ofEnvironment_eq_withSecrets (fun key _ hkey => h.plain key hkey)
    (h.secret _ (by decide))
  cases hread : Settings.ofEnvironment env with
  | error fault =>
    rw [hread] at hother
    rw [hother]
    rfl
  | ok s =>
    rw [hread] at hown hother
    rw [hother, Except.ok.inj hown]
    exact h.alike_withSecrets s

end Environment.Alike

/-! ## The report -/

theorem reportLine_ofOption_congr {key : Text} {a b : Option Text} (hkey : key ∈ secretKeys)
    (h : SameForm a b) : reportLine key (.ofOption a) = reportLine key (.ofOption b) := by
  rcases a with - | a <;> rcases b with - | b
  · rfl
  · cases h
  · cases h
  · have hform : a.isEmpty = b.isEmpty := Option.some.inj h
    cases ha : a.isEmpty with
    | true =>
      have hb : b.isEmpty = true := hform ▸ ha
      rw [Text.isEmpty_iff.mp ha, Text.isEmpty_iff.mp hb]
    | false =>
      have hset {t : Text} (ht : t.isEmpty = false) : (SettingValue.ofOption (some t)).isSet := by
        rw [SettingValue.ofOption, SettingValue.isSet, decide_eq_true_iff]
        rintro rfl
        cases ht
      have hkey' : secretKeys.contains key = true := List.contains_iff_mem.mpr hkey
      simp only [reportLine, hkey', hset ha, hset (hform ▸ ha), Bool.and_self, if_true]

theorem Settings.Alike.report_eq {s s' : Settings} (h : s.Alike s') : s.report = s'.report := by
  have hnode : reportLine "RPC_PASSWORD" (.ofOption s.rpcPassword) =
      reportLine "RPC_PASSWORD" (.ofOption s'.rpcPassword) :=
    reportLine_ofOption_congr (by decide) h.rpcPassword
  have htoken : reportLine "METRICS_BEARER_TOKEN" (.ofOption s.bearerToken) =
      reportLine "METRICS_BEARER_TOKEN" (.ofOption s'.bearerToken) :=
    reportLine_ofOption_congr (by decide) h.bearerToken
  have hbus : reportLine "NATS_PASSWORD" (.ofOption s.busPassword) =
      reportLine "NATS_PASSWORD" (.ofOption s'.busPassword) :=
    reportLine_ofOption_congr (by decide) h.busPassword
  unfold report NodeProbe.report entries
  rw [h.plain]
  simp only [List.map_cons, hnode, htoken, hbus]

/-! ## Loading -/

/-- What is read as the environment file, and as the vault beside it, is the same. -/
structure Files.SameSource (home : String) (path : Text) (files files' : Files) : Prop where
  isThere : files.isThere path = files'.isThere path
  hasVault : files.isThere (vaultPath path) = files'.isThere (vaultPath path)
  bindings : fileVariables home files path = fileVariables home files' path
  vaultBindings :
    fileVariables home files (vaultPath path) = fileVariables home files' (vaultPath path)

/-- Two environments that files have been added to are alike, and so is all that can be seen. -/
structure Extended.Alike (file file' : Extended) : Prop where
  environment : file.environment.Alike file'.environment
  printed : file.printed = file'.printed
  isUsable : file.isUsable = file'.isUsable

section Load

variable {env env' : Environment} {files files' : Files} {home : String} {path : Text}

theorem Environment.Alike.load (h : env.Alike env') (hsource : files.SameSource home path files') :
    (env.load home files path).Alike (env'.load home files' path) := by
  unfold Environment.load
  rw [← h.nonEmpty?_eq (by decide : vaultKeysName ∉ secretKeys), hsource.hasVault, hsource.bindings,
    hsource.vaultBindings]
  split
  · exact ⟨h.extend _, rfl, rfl⟩
  split
  · dsimp only
    split
    · exact ⟨(h.extend _).extend _, rfl, rfl⟩
    · exact ⟨h.extend _, rfl, rfl⟩
  · exact ⟨h.extend _, rfl, rfl⟩

variable {identity : Identity} {options : LoadOptions}

theorem Environment.Alike.homeIn_eq (h : env.Alike env') (identity : Identity) :
    identity.homeIn env = identity.homeIn env' := by
  rw [Identity.homeIn, h.plain "HOME" (by decide), ← Identity.homeIn]

theorem Environment.Alike.firstOf_eq (h : env.Alike env') {keys : List Text}
    (hkeys : ∀ key ∈ keys, key ∉ secretKeys) (fallback : String) :
    env.firstOf keys fallback = env'.firstOf keys fallback := by
  have hfound : keys.findSome? env.nonEmpty? = keys.findSome? env'.nonEmpty? := by
    induction keys with
    | nil => rfl
    | cons key keys ih =>
      obtain ⟨hkey, hkeys⟩ := List.forall_mem_cons.mp hkeys
      rw [List.findSome?_cons, List.findSome?_cons, h.nonEmpty?_eq hkey, ih hkeys]
  rw [firstOf, hfound, ← firstOf]

theorem Environment.Alike.pathIn_eq (h : env.Alike env') (options : LoadOptions)
    (identity : Identity) : options.pathIn identity env = options.pathIn identity env' := by
  rw [LoadOptions.pathIn, defaultConfigPath, h.firstOf_eq (by decide), ← defaultConfigPath,
    ← LoadOptions.pathIn]

theorem Environment.Alike.identity_eq (h : env.Alike env') :
    Identity.ofEnvironment env = Identity.ofEnvironment env' := by
  unfold Identity.ofEnvironment
  rw [h.firstOf_eq (by decide), h.firstOf_eq (by decide), h.homeIn_eq]

/-- What comes of loading: the outcomes are alike and the same is printed. -/
structure Loaded.Alike (loaded loaded' : Loaded) : Prop where
  outcome : AlikeOutcomes loaded.outcome loaded'.outcome
  printed : loaded.printed = loaded'.printed

theorem Environment.Alike.of (h : env.Alike env') (path : Text) (quiet : Bool)
    (printed : List Line) :
    (Loaded.of env path quiet printed).Alike (.of env' path quiet printed) := by
  have houtcome := h.ofEnvironment
  refine ⟨houtcome, ?_⟩
  unfold Loaded.of
  revert houtcome
  cases Settings.ofEnvironment env <;> cases Settings.ofEnvironment env' <;> intro houtcome
  · rfl
  · cases houtcome
  · cases houtcome
  · simp only [Settings.Alike.report_eq houtcome]

theorem Environment.Alike.loadSettings (h : env.Alike env')
    (hsource : files.SameSource (identity.homeIn env) (options.pathIn identity env) files') :
    (loadSettings .standard identity files env options).Alike
      (loadSettings .standard identity files' env' options) := by
  have hfile : (options.extend .standard identity files env).Alike
      (options.extend .standard identity files' env') := by
    unfold LoadOptions.extend
    rw [← h.pathIn_eq, ← h.homeIn_eq, hsource.isThere]
    split
    · exact h.load hsource
    · exact ⟨h, rfl, rfl⟩
  rw [loadSettings_eq, loadSettings_eq]
  dsimp only
  rw [← hfile.isUsable, ← hfile.printed, ← h.pathIn_eq]
  split
  · exact hfile.environment.of _ _ _
  split
  · exact ⟨rfl, rfl⟩
  · exact hfile.environment.of _ _ _

end Load

/-! ## Starting -/

section Start

variable {files files' : Files}

/-- Both files can be read. -/
def Files.BothRead (files files' : Files) (path : Text) : Prop :=
  (files.readText path).isOk ∧ (files'.readText path).isOk

theorem BusAccess.exists_readPassword_eq {file : Text} (h : files.BothRead files' file)
    (user : Text) : ∃ a b lines, readPassword files user file = .ok (a, lines) ∧
      readPassword files' user file = .ok (b, lines) := by
  obtain ⟨h, h'⟩ := h
  unfold readPassword
  cases hread : files.readText file with
  | error fault =>
    rw [hread] at h
    cases h
  | ok content =>
    cases hread' : files'.readText file with
    | error fault =>
      rw [hread'] at h'
      cases h'
    | ok content' => exact ⟨_, _, _, rfl, rfl⟩

section Bus

variable {access : BusAccess} {password : Option Text}

/-- Both passwords are found or neither is, and the same is printed. -/
theorem BusAccess.findPassword_cases (hform : SameForm access.password password)
    (hread : ∀ file, access.passwordFile = some file → files.BothRead files' file) (user : Text) :
    (∃ a b lines, access.findPassword files user = .ok (some a, lines) ∧
        findPassword files' { access with password } user = .ok (some b, lines)) ∨
      access.findPassword files user = .ok (none, []) ∧
        findPassword files' { access with password } user = .ok (none, []) := by
  obtain ⟨address, own, given, passwordFile, clientName⟩ := access
  unfold findPassword
  rcases given with - | given <;> rcases password with - | password
  · cases hfile : passwordFile.filter (!·.isEmpty) with
    | none => exact .inr ⟨rfl, rfl⟩
    | some file =>
      obtain ⟨a, b, lines, ha, hb⟩ :=
        exists_readPassword_eq (hread file (Option.filter_eq_some_iff.mp hfile).1) user
      exact .inl ⟨a, b, lines, by simp only [ha]; rfl, by simp only [hb]; rfl⟩
  · cases hform
  · cases hform
  · exact .inl ⟨given, password, [], rfl, rfl⟩

theorem BusAccess.map_login_eq (hform : SameForm access.password password)
    (hread : ∀ file, access.passwordFile = some file → files.BothRead files' file) :
    (access.login files).map (·.2) = (login files' { access with password }).map (·.2) := by
  unfold login
  dsimp only
  cases access.user.filter (!·.isEmpty) with
  | none => rfl
  | some user =>
    rcases findPassword_cases hform hread user with ⟨a, b, lines, ha, hb⟩ | ⟨ha, hb⟩
    · simp only [ha, hb]
      rfl
    · simp only [ha, hb]

theorem connectBus_congr {access' : BusAccess}
    (hlogin : (access.login files).map (·.2) = (access'.login files').map (·.2))
    (haddress : access.address = access'.address) (reach : Reach) :
    (connectBus files reach access).1.map (fun _ => ()) =
        (connectBus files' reach access').1.map (fun _ => ()) ∧
      (connectBus files reach access).2 = (connectBus files' reach access').2 := by
  unfold connectBus
  rw [← haddress]
  revert hlogin
  cases access.login files <;> cases access'.login files' <;> intro hlogin
  · cases hlogin
    exact ⟨rfl, rfl⟩
  · cases hlogin
  · cases hlogin
  · simp only [Except.map, Except.ok.injEq] at hlogin
    dsimp only
    rw [hlogin]
    split <;> exact ⟨rfl, rfl⟩

end Bus

theorem Metrics.listening_congr {a b : Option Text} (h : SameForm a b) (host port : Text) :
    listening host port a = listening host port b := by
  unfold listening
  rcases a with - | a <;> rcases b with - | b
  · rfl
  · cases h
  · cases h
  · have hempty (t : Text) : t = "" ↔ t.isEmpty = true :=
      Text.isEmpty_iff.symm
    simp only [Option.getD_some, hempty, Option.some.inj h]

/-- What the program shows when it starts with one of two settings is the same. -/
structure Settings.SameStart (s s' : Settings) (identity : Identity) (files files' : Files) :
    Prop where
  /-- The report of the settings. -/
  report : s.report = s'.report
  /-- Whether the metrics server listens, and what is printed then. -/
  metrics : ∀ occupied,
    Metrics.listen (some s.metricsAddress.text) occupied =
      Metrics.listen (some s'.metricsAddress.text) occupied
  listening : ∀ host port,
    Metrics.listening host port s.bearerToken = Metrics.listening host port s'.bearerToken
  /-- What is printed about the login for the bus, or why there is none. -/
  login : (∀ file, s.busPasswordFile = some file → files.BothRead files' file) →
    ((s.busAccess identity).login files).map (·.2) =
      ((s'.busAccess identity).login files').map (·.2)
  /-- What is printed when the program connects to the bus, or why it cannot. -/
  connects : (∀ file, s.busPasswordFile = some file → files.BothRead files' file) → ∀ reach,
    (connectBus files reach (s.busAccess identity)).1.map (fun _ => ()) =
        (connectBus files' reach (s'.busAccess identity)).1.map (fun _ => ()) ∧
      (connectBus files reach (s.busAccess identity)).2 =
        (connectBus files' reach (s'.busAccess identity)).2
  /-- What is printed about the node. -/
  node : ∀ around : Surroundings, around.nodeLines s = around.nodeLines s'

theorem Settings.Alike.sameStart {s s' : Settings} (h : s.Alike s') (identity : Identity) :
    s.SameStart s' identity files files' := by
  have hmetrics : s'.metricsAddress = s.metricsAddress := by rw [h.plain]
  have hhost : s'.rpcHost = s.rpcHost := by rw [h.plain]
  have hbus : s'.busAccess identity = { s.busAccess identity with password := s'.busPassword } :=
    congrArg (busAccess · identity) h.plain
  have hlogin (hread : ∀ file, s.busPasswordFile = some file → files.BothRead files' file) :
      ((s.busAccess identity).login files).map (·.2) =
        ((s'.busAccess identity).login files').map (·.2) := by
    rw [hbus]
    exact BusAccess.map_login_eq h.busPassword hread
  refine ⟨h.report_eq, fun _ => by rw [hmetrics], Metrics.listening_congr h.bearerToken, hlogin,
    fun hread => connectBus_congr (hlogin hread) (by rw [hbus]), fun around => ?_⟩
  unfold Surroundings.nodeLines
  cases around.node with
  | remote nodeFiles exchange => simp only [Client.url, Client.new, nodeAccess, hhost]
  | prepared lines => rfl

end Start

/-- What can be seen of the start is the same in two environments and with two sets of files. -/
structure KeepsSecrets (identity : Identity) (options : LoadOptions) (files files' : Files)
    (env env' : Environment) : Prop where
  names : Identity.ofEnvironment env = Identity.ofEnvironment env'
  printed : (loadSettings .standard identity files env options).printed =
    (loadSettings .standard identity files' env' options).printed
  /-- There are settings in both and they show the same, or there are none for the same reason. -/
  outcome :
    match (loadSettings .standard identity files env options).outcome,
      (loadSettings .standard identity files' env' options).outcome with
    | .ok s, .ok s' => s.SameStart s' identity files files'
    | .error fault, .error fault' => fault = fault'
    | _, _ => False

/-! ## Files -/

namespace Files

/-- The content of the file at a place alone differs. -/
structure DifferAt (place : List String) (files files' : Files) : Prop where
  workingDirectory : files.workingDirectory = files'.workingDirectory
  elsewhere : ∀ other, other ≠ place → files.at? other = files'.at? other
  content : ∃ c c', files.at? place = some (.file c) ∧ files'.at? place = some (.file c')

section DifferAt

variable {place : List String} {files files' : Files}

theorem DifferAt.walk_cases (h : DifferAt place files files') (start : List String)
    (parts : List String) : files.walk start parts = files'.walk start parts ∨
      parts.foldl stepInto start = place ∧ ∃ c c', files.walk start parts = .ok (.file c) ∧
        files'.walk start parts = .ok (.file c') := by
  obtain ⟨c, c', hc, hc'⟩ := h.content
  induction parts generalizing start with
  | nil =>
    unfold walk
    by_cases hstart : start = place
    · subst hstart
      rw [hc, hc']
      exact .inr ⟨rfl, c, c', rfl, rfl⟩
    · rw [h.elsewhere start hstart]
      exact .inl rfl
  | cons part rest ih =>
    unfold walk
    by_cases hstart : start = place
    · subst hstart
      rw [hc, hc']
      exact .inl rfl
    · rw [h.elsewhere start hstart]
      split
      · exact .inl rfl
      · exact .inl rfl
      · split
        · exact .inl rfl
        · exact ih (stepInto start part)

/-- A path leads to the same, or to the file whose content differs. -/
theorem DifferAt.find_cases (h : DifferAt place files files') (path : String) :
    files.find path = files'.find path ∨ files.placeOf path = place ∧
      ∃ c c', files.find path = .ok (.file c) ∧ files'.find path = .ok (.file c') := by
  have horigin : files'.origin path = files.origin path := by
    unfold origin
    rw [h.workingDirectory]
  unfold find
  rw [horigin]
  split
  · exact .inl rfl
  split
  · exact .inl rfl
  split
  · exact .inl rfl
  · exact h.walk_cases _ _

theorem DifferAt.isThere_eq (h : DifferAt place files files') (path : Text) :
    files.isThere path = files'.isThere path := by
  unfold isThere
  rcases h.find_cases path.toString with heq | ⟨-, c, c', hc, hc'⟩
  · rw [heq]
  · rw [hc, hc']

theorem DifferAt.fileVariables_eq (h : DifferAt place files files') {home : String} {path : Text}
    (hpath : files.placeOf (expandTilde home path.toString) ≠ place) :
    fileVariables home files path = fileVariables home files' path := by
  have hfind : files.find (expandTilde home path.toString) =
      files'.find (expandTilde home path.toString) :=
    (h.find_cases _).resolve_right fun hplace => hpath hplace.1
  unfold fileVariables readText read
  rw [Text.toString_ofString, hfind]

/-- The environment file and the vault are the same if they are other files. -/
theorem DifferAt.sameSource (h : DifferAt place files files') {home : String} {path : Text}
    (hfile : files.placeOf (expandTilde home path.toString) ≠ place)
    (hvault : files.placeOf (expandTilde home (vaultPath path).toString) ≠ place) :
    files.SameSource home path files' where
  isThere := h.isThere_eq path
  hasVault := h.isThere_eq (vaultPath path)
  bindings := h.fileVariables_eq hfile
  vaultBindings := h.fileVariables_eq hvault

theorem ne_of_mem_parents {directory : List String} (h : directory ∈ parents place) :
    place ≠ directory := by
  obtain ⟨i, hi, rfl⟩ := List.mem_map.mp h
  intro heq
  have hlength := congrArg List.length heq
  rw [List.length_take] at hlength
  have := List.mem_range.mp hi
  omega

theorem lookup_put_self (path : String) (entry : Entry) :
    (files.put path entry).entries.lookup (files.placeOf path) = some entry := by
  have hfree (e : List String × Entry) (he : e ∈ files.entries.filter (·.1 ≠ files.placeOf path)) :
      (files.placeOf path != e.1) = true :=
    bne_iff_ne.mpr (of_decide_eq_true (List.mem_filter.mp he).2).symm
  have hnew (e : List String × Entry)
      (he : e ∈ ((parents (files.placeOf path)).filter fun d => (files.at? d).isNone).map
        (·, Entry.directory)) : (files.placeOf path != e.1) = true := by
    obtain ⟨directory, hdirectory, rfl⟩ := List.mem_map.mp he
    exact bne_iff_ne.mpr (ne_of_mem_parents (List.mem_filter.mp hdirectory).1)
  unfold put
  dsimp only
  rw [List.lookup_append, List.lookup_append, List.lookup_eq_none_iff.mpr hfree,
    List.lookup_eq_none_iff.mpr hnew, List.lookup_cons_self]
  rfl

/-- Nothing else depends on the content of a file that is put somewhere. -/
theorem differAt_put {path : String}
    (hplace : ¬ (files.placeOf path).isPrefixOf files.workingDirectory) (c c' : Bytes) :
    DifferAt (files.placeOf path) (files.put path (.file c)) (files.put path (.file c')) where
  workingDirectory := rfl
  elsewhere other hother := by
    have hlookup : (files.put path (.file c)).entries.lookup other =
        (files.put path (.file c')).entries.lookup other := by
      unfold put
      simp only [List.lookup_append, List.lookup_cons, beq_false_of_ne hother]
    unfold at?
    rw [hlookup]
    rfl
  content := by
    refine ⟨c, c', ?_, ?_⟩
    · exact (if_neg hplace).trans (lookup_put_self path _)
    · exact (if_neg hplace).trans (lookup_put_self path _)

end DifferAt

end Files

/-- **No secret can be seen:** the program shows the same with one as with another. -/
theorem keepsSecrets {identity : Identity} {options : LoadOptions} {files files' : Files}
    {env env' : Environment} (hsecrets : env.Alike env')
    (hsource : files.SameSource (identity.homeIn env) (options.pathIn identity env) files') :
    KeepsSecrets identity options files files' env env' := by
  obtain ⟨houtcome, hprinted⟩ := hsecrets.loadSettings hsource
  refine ⟨hsecrets.identity_eq, hprinted, ?_⟩
  revert houtcome
  cases (loadSettings .standard identity files env options).outcome <;>
    cases (loadSettings .standard identity files' env' options).outcome <;> intro houtcome
  · exact houtcome
  · exact houtcome
  · exact houtcome
  · exact houtcome.sameStart identity

/-- The password for the bus stands in a file. -/
def guarded (password token : Text) : Environment :=
  ⟨[("RPC_USER", "u"), ("RPC_PASSWORD", password), ("NATS_USERNAME", "n"),
    ("NATS_PASSWORD_FILE", "nats.pw"), ("METRICS_BEARER_TOKEN", token)]⟩

/-- The environment file and the file with a password. -/
def guardedFiles (password : Bytes) : Files :=
  (Files.empty.put "c.env" (.file (Text.Utf8.encode "RPC_HOST=a:1"))).put "nats.pw" (.file password)

theorem alike_guarded {password password' token token' : Text}
    (hpassword : password.isEmpty = password'.isEmpty) (htoken : token.isEmpty = token'.isEmpty) :
    (guarded password token).Alike (guarded password' token') where
  plain key hkey := by
    have hnode : (key == Text.ofString "RPC_PASSWORD") = false :=
      beq_false_of_ne fun heq => hkey (heq ▸ by decide)
    have hmetrics : (key == Text.ofString "METRICS_BEARER_TOKEN") = false :=
      beq_false_of_ne fun heq => hkey (heq ▸ by decide)
    simp only [Environment.get?, guarded, List.lookup_cons, hnode, hmetrics]
  secret key hkey := by
    simp only [secretKeys, List.mem_cons, List.not_mem_nil, or_false] at hkey
    rcases hkey with rfl | rfl | rfl
    · exact congrArg some hpassword
    · rfl
    · exact congrArg some htoken

theorem keepsSecrets_guarded :
    (guarded "p" "t").Alike (guarded "secret" "token") ∧
      (guardedFiles [0x61]).SameSource (Identity.homeIn .standard (guarded "p" "t")) "c.env"
        (guardedFiles [0x62, 0x63]) ∧
      (guardedFiles [0x61]).BothRead (guardedFiles [0x62, 0x63]) "nats.pw" ∧
      KeepsSecrets .standard ⟨some "c.env", false⟩ (guardedFiles [0x61])
        (guardedFiles [0x62, 0x63]) (guarded "p" "t") (guarded "secret" "token") := by
  have hsecrets : (guarded "p" "t").Alike (guarded "secret" "token") :=
    alike_guarded (by decide) (by decide)
  have hsource : (guardedFiles [0x61]).SameSource (Identity.homeIn .standard (guarded "p" "t"))
      "c.env" (guardedFiles [0x62, 0x63]) :=
    (Files.differAt_put (by decide +kernel) _ _).sameSource (by decide +kernel) (by decide +kernel)
  have hread : (guardedFiles [0x61]).BothRead (guardedFiles [0x62, 0x63]) "nats.pw" :=
    ⟨by decide +kernel, by decide +kernel⟩
  exact ⟨hsecrets, hsource, hread, keepsSecrets hsecrets hsource⟩

end NodeProbe
