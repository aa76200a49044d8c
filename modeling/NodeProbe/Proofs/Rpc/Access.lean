import NodeProbe.Extractor
import NodeProbe.Proofs.Config.Reading
import NodeProbe.Proofs.Rpc.Answer

/-!
# What is accepted has credentials

The settings are accepted only with a cookie file, or with a user and a password, and the client
that is built from them finds the same: the cookie file decides alone if one is named
(`Session.Matches`), and otherwise every request carries the user and the password
(`Settings.findsCredentials`). So no call fails because there are no credentials.
-/

namespace NodeProbe

/-! ## Resolving -/

namespace Credentials

variable {files files' : Files} {access access' : NodeAccess} {file user password : Text}

/-- If a cookie file is named, nothing else is looked at. -/
theorem resolve_of_cookieFile (hfile : access.cookieFile = some file) (hne : file ≠ "") :
    resolve files access = ofCookie files file := by
  unfold resolve
  rw [hfile, Text.filter_isEmpty_eq_some_iff.mpr ⟨rfl, hne⟩]

theorem resolve_of_settings (hfile : access.IsCookieless) (huser : access.user = some user)
    (hne : user ≠ "") (hpassword : access.password = some password) :
    resolve files access = .ok ⟨user, password⟩ := by
  unfold resolve
  rw [Text.filter_isEmpty_eq_none_iff.mpr hfile, Text.filter_isEmpty_eq_some_iff.mpr ⟨huser, hne⟩,
    hpassword]

theorem ofCookie_congr (h : files.readText file = files'.readText file) :
    ofCookie files file = ofCookie files' file := by
  unfold ofCookie
  rw [h]

end Credentials

/-! ## Wordings -/

/-- Texts that begin in different ways are different. -/
theorem Text.ne_of_take {s t : Text} (n : Nat) (h : s.units.take n ≠ t.units.take n) : s ≠ t :=
  fun heq => h (congrArg (fun text : Text => text.units.take n) heq)

/-- A cookie file that is of no use is not the same as no credentials. -/
theorem message_ne_of_ofCookie {files : Files} {file : Text} {cause : AuthCause}
    (h : Credentials.ofCookie files file = .error cause) :
    cause.message ≠ "No RPC credentials configured" := by
  unfold Credentials.ofCookie at h
  split at h
  · cases h
    exact Text.ne_of_take 3 (of_decide_eq_true rfl)
  · split at h
    · cases h
    · cases h
      exact Text.ne_of_take 3 (of_decide_eq_true rfl)

/-- Nothing that comes back from the node is taken for missing credentials: the first three units
tell the wordings apart. -/
theorem message_ne_of_read {host method : Text} {exchange : Exchange} {fault : Fault}
    (h : exchange.read host method = .error fault) :
    fault.message ≠ .ok "No RPC credentials configured" := by
  rcases exchange.returns_or_shows host with ⟨result, hreturns⟩ | ⟨failure, hshows⟩ | htextless
  · cases (Exchange.read_of_returns hreturns).symm.trans h
  · obtain rfl := Except.error.inj ((Exchange.read_of_shows hshows).symm.trans h)
    refine fun heq => Text.ne_of_take 3 ?_ (Except.ok.inj heq)
    cases hshows <;> exact of_decide_eq_true rfl
  · obtain rfl := Except.error.inj ((Exchange.read_of_isTextless htextless).symm.trans h)
    exact fun heq => absurd (Except.ok.inj heq) (by decide)

/-! ## Sessions -/

/-- If the credentials cannot be had, the reason is another one than that there are none. -/
def NodeAccess.IsProviding (access : NodeAccess) : Prop :=
  ∀ files cause, Credentials.resolve files access = .error cause →
    cause.message ≠ "No RPC credentials configured"

namespace Session

/-- A call that is over has not failed because there were no credentials. -/
def Stage.IsProvided (stage : Stage) : Prop :=
  ∀ fault, stage = .over (.error fault) → fault.message ≠ .ok "No RPC credentials configured"

section Provided

variable {access : NodeAccess} {s : Session}

theorem isProvided_set {calls : List Stage} {next : Stage} (h : ∀ stage ∈ calls, stage.IsProvided)
    (hnext : next.IsProvided) (call : Nat) : ∀ stage ∈ calls.set call next, stage.IsProvided := by
  intro stage hmem
  rcases List.mem_or_eq_of_mem_set hmem with hmem | heq
  · exact h stage hmem
  · exact heq ▸ hnext

theorem isProvided_step (haccess : s.client.access.IsProviding)
    (h : ∀ stage ∈ s.calls, stage.IsProvided) (act : Act) :
    ∀ stage ∈ (s.step act).calls, stage.IsProvided := by
  cases act with
  | calls method abortable => exact List.forall_mem_append.mpr ⟨h, by simp [Stage.IsProvided]⟩
  | reads call files =>
    simp only [step]
    split
    · rename_i method abortable hcall
      unfold Client.prepare
      cases hresolve : Credentials.resolve files s.client.access with
      | ok credentials => exact isProvided_set h (fun fault hfault => by cases hfault) call
      | error cause =>
        refine isProvided_set h (fun fault hfault heq => ?_) call
        cases hfault
        exact haccess files cause hresolve (Except.ok.inj heq)
    · exact h
  | hears call exchange =>
    simp only [step]
    split
    · exact isProvided_set h (fun fault hfault => message_ne_of_read (Stage.over.inj hfault)) call
    · exact h

theorem isProvided_run (haccess : access.IsProviding) (acts : List Act) :
    ∀ stage ∈ (run access acts).calls, stage.IsProvided := by
  induction acts using List.reverseRecOn with
  | nil => exact List.forall_mem_nil _
  | append_singleton acts act ih =>
    rw [← (sound_run access acts).access] at haccess
    rw [run_concat]
    exact isProvided_step haccess ih act

end Provided

section Login

variable {access : NodeAccess} {s : Session} {credentials : Credentials} {call : Nat}
  {files : Files} {method : Text} {abortable : Bool}

theorem step_reads_of_resolve (hcall : s.calls[call]? = some (.resolving method abortable))
    (hresolve : Credentials.resolve files s.client.access = .ok credentials) :
    s.step (.reads call files) = ⟨{ s.client with sent := s.client.sent + 1 },
      s.calls.set call (.sent method),
      s.requests ++ [s.client.request credentials method abortable]⟩ := by
  simp only [step, hcall, Client.prepare, hresolve]

/-- With credentials that never change, every request carries them. -/
theorem authorization_step
    (hresolve : ∀ files, Credentials.resolve files s.client.access = .ok credentials)
    (h : ∀ request ∈ s.requests, request.authorization = credentials.header) (act : Act) :
    ∀ request ∈ (s.step act).requests, request.authorization = credentials.header := by
  cases act with
  | calls method abortable => exact h
  | reads call files =>
    by_cases hcall : ∃ method abortable, s.calls[call]? = some (.resolving method abortable)
    · obtain ⟨method, abortable, hcall⟩ := hcall
      rw [step_reads_of_resolve hcall (hresolve files)]
      exact List.forall_mem_append.mpr ⟨h, List.forall_mem_singleton.mpr rfl⟩
    · simp only [step]
      split
      · exact absurd ⟨_, _, ‹_›⟩ hcall
      · exact h
  | hears call exchange =>
    simp only [step]
    split <;> exact h

theorem authorization_run (hresolve : ∀ files, Credentials.resolve files access = .ok credentials)
    (acts : List Act) :
    ∀ request ∈ (run access acts).requests, request.authorization = credentials.header := by
  induction acts using List.reverseRecOn with
  | nil => exact List.forall_mem_nil _
  | append_singleton acts act ih =>
    rw [← (sound_run access acts).access] at hresolve
    rw [run_concat]
    exact authorization_step hresolve ih act

end Login

/-- The same happens, and a call that reads its credentials finds the same in a file. -/
inductive Act.SameAt (file : Text) : Act → Act → Prop
  | calls (method : Text) (abortable : Bool) :
    SameAt file (.calls method abortable) (.calls method abortable)
  | reads (call : Nat) {files files' : Files} :
    files.readText file = files'.readText file →
    SameAt file (.reads call files) (.reads call files')
  | hears (call : Nat) (exchange : Exchange) :
    SameAt file (.hears call exchange) (.hears call exchange)

/-- Two sessions with the same cookie file have done the same. -/
structure Matches (file : Text) (s s' : Session) : Prop where
  host : s.client.access.host = s'.client.access.host
  cookie : s.client.access.cookieFile = some file
  cookie' : s'.client.access.cookieFile = some file
  sent : s.client.sent = s'.client.sent
  calls : s.calls = s'.calls
  requests : s.requests = s'.requests

section Matches

variable {file : Text} {access access' : NodeAccess} {s s' : Session} {act act' : Act}

theorem Matches.step (hne : file ≠ "") (h : Matches file s s') (hact : act.SameAt file act') :
    Matches file (s.step act) (s'.step act') := by
  obtain ⟨⟨⟨host, cookieFile, user, password⟩, sent⟩, calls, requests⟩ := s
  obtain ⟨⟨⟨host', cookieFile', user', password'⟩, sent'⟩, calls', requests'⟩ := s'
  obtain ⟨rfl, rfl, rfl, rfl, rfl, rfl⟩ := h
  cases hact with
  | calls method abortable => exact ⟨rfl, rfl, rfl, rfl, rfl, rfl⟩
  | hears call exchange =>
    simp only [Session.step]
    split <;> exact ⟨rfl, rfl, rfl, rfl, rfl, rfl⟩
  | @reads call files files' hread =>
    simp only [Session.step]
    split
    · have hresolve (user password : Option Text) (files : Files) :
          Credentials.resolve files ⟨host, some file, user, password⟩ =
            Credentials.ofCookie files file :=
        Credentials.resolve_of_cookieFile rfl hne
      simp only [Client.prepare, hresolve, Credentials.ofCookie_congr hread]
      cases Credentials.ofCookie files' file <;> exact ⟨rfl, rfl, rfl, rfl, rfl, rfl⟩
    · exact ⟨rfl, rfl, rfl, rfl, rfl, rfl⟩

theorem matches_run {acts acts' : List Act} (hne : file ≠ "") (hhost : access.host = access'.host)
    (hcookie : access.cookieFile = some file) (hcookie' : access'.cookieFile = some file)
    (hacts : List.Forall₂ (Act.SameAt file) acts acts') :
    Matches file (run access acts) (run access' acts') := by
  have hfoldl {s s' : Session} (h : Matches file s s') :
      Matches file (acts.foldl Session.step s) (acts'.foldl Session.step s') := by
    induction hacts generalizing s s' with
    | nil => exact h
    | cons hact _ ih => exact ih (h.step hne hact)
  exact hfoldl ⟨hhost, hcookie, hcookie', rfl, rfl, rfl⟩

end Matches

end Session

/-! ## Settings -/

/-- The environments differ in the user and the password of the node at most. -/
def Environment.SameButLogin (env env' : Environment) : Prop :=
  ∀ key ∈ Settings.variableNames, key ≠ "RPC_USER" → key ≠ "RPC_PASSWORD" →
    env.get? key = env'.get? key

/-- Nothing is demanded of the user and the password by themselves. -/
theorem Environment.key_of_mem_demands : ∀ d ∈ demands, d.1 ∈ Settings.variableNames ∧
    d.1 ≠ "RPC_USER" ∧ d.1 ≠ "RPC_PASSWORD" := by
  decide +kernel

namespace Settings

variable {env env' : Environment} {s s' : Settings}

/-- The access names no cookie file, and it has the user and the password of the environment. -/
theorem exists_login (h : ofEnvironment env = .ok s)
    (hbare : ∀ file, env.get? "RPC_COOKIE_FILE" = some file → file = "") :
    s.nodeAccess.IsCookieless ∧ ∃ user password, env.get? "RPC_USER" = some user ∧ user ≠ "" ∧
      env.get? "RPC_PASSWORD" = some password ∧ password ≠ "" ∧
      s.nodeAccess.user = some user ∧ s.nodeAccess.password = some password := by
  obtain ⟨-, hcredentials, hs⟩ := isReadFrom_of_ofEnvironment h
  rcases hcredentials with ⟨file, hfile, hne⟩ | ⟨user, password, huser, hne, hpassword, hne'⟩
  · exact absurd (hbare file hfile) hne
  · have hcookieless : s.nodeAccess.IsCookieless := by
      intro file hfile
      obtain ⟨hget, -⟩ := Environment.nonEmpty?_eq_some_iff.mp (hs.cookieFile.symm.trans hfile)
      exact hbare file hget
    have huser' : s.rpcUser = some user :=
      hs.rpcUser.trans (Environment.nonEmpty?_eq_some_iff.mpr ⟨huser, hne⟩)
    exact ⟨hcookieless, user, password, huser, hne, hpassword, hne', huser',
      hs.rpcPassword.trans hpassword⟩

theorem cookieFile_of_get? {file : Text} (h : ofEnvironment env = .ok s)
    (hfile : env.get? "RPC_COOKIE_FILE" = some file) (hne : file ≠ "") :
    s.nodeAccess.cookieFile = some file := by
  obtain ⟨-, -, hs⟩ := isReadFrom_of_ofEnvironment h
  exact hs.cookieFile.trans (Environment.nonEmpty?_eq_some_iff.mpr ⟨hfile, hne⟩)

theorem isProviding_of_ofEnvironment (h : ofEnvironment env = .ok s) :
    s.nodeAccess.IsProviding := by
  intro files cause hresolve
  by_cases hcookie : ∃ file, env.get? "RPC_COOKIE_FILE" = some file ∧ file ≠ ""
  · obtain ⟨file, hfile, hne⟩ := hcookie
    rw [Credentials.resolve_of_cookieFile (cookieFile_of_get? h hfile hne) hne] at hresolve
    exact message_ne_of_ofCookie hresolve
  · have hbare : ∀ file, env.get? "RPC_COOKIE_FILE" = some file → file = "" := by
      simpa only [not_exists, not_and, not_not] using hcookie
    obtain ⟨hcookieless, user, password, -, hne, -, -, huser, hpassword⟩ := exists_login h hbare
    rw [Credentials.resolve_of_settings hcookieless huser hne hpassword] at hresolve
    cases hresolve

/-- A cookie file is enough, whatever the user and the password are. -/
theorem exists_of_sameButLogin {file : Text} (h : ofEnvironment env = .ok s)
    (hfile : env.get? "RPC_COOKIE_FILE" = some file) (hne : file ≠ "")
    (hsame : env.SameButLogin env') :
    ∃ s', ofEnvironment env' = .ok s' ∧ s'.nodeAccess.host = s.nodeAccess.host ∧
      s'.nodeAccess.cookieFile = some file := by
  obtain ⟨hvalid, -, hs⟩ := isReadFrom_of_ofEnvironment h
  have hvalid' : env'.IsValid := by
    intro d hd
    obtain ⟨hkey, huser, hpassword⟩ := Environment.key_of_mem_demands d hd
    exact (Environment.meets_congr (hsame _ hkey huser hpassword)).mp (hvalid d hd)
  have hfile' : env'.get? "RPC_COOKIE_FILE" = some file :=
    (hsame _ (by simp [variableNames]) (by decide) (by decide)).symm.trans hfile
  obtain ⟨s', h'⟩ := exists_ofEnvironment_iff.mpr ⟨hvalid', .inl ⟨file, hfile', hne⟩⟩
  refine ⟨s', h', ?_, cookieFile_of_get? h' hfile' hne⟩
  obtain ⟨-, -, hs'⟩ := isReadFrom_of_ofEnvironment h'
  have hvalue : env.valueOr "RPC_HOST" "127.0.0.1:8332" =
      env'.valueOr "RPC_HOST" "127.0.0.1:8332" := by
    unfold Environment.valueOr
    rw [hsame "RPC_HOST" (by simp [variableNames]) (by decide) (by decide)]
  exact hs'.rpcHost.text_eq.trans (hvalue.symm.trans hs.rpcHost.text_eq.symm)

/-- What the client that is built from some settings finds when it looks for credentials. -/
structure FindsCredentials (env : Environment) (s : Settings) : Prop where
  /-- No call fails because there are no credentials. -/
  provided : ∀ (acts : List Session.Act) (fault : Fault),
    .over (.error fault) ∈ (Session.run s.nodeAccess acts).calls →
    fault.message ≠ .ok "No RPC credentials configured"
  /-- If a cookie file is named, the credentials are what it holds; whatever the user and the
  password are, and whatever else there is in the files, the same comes of all calls. -/
  cookie : ∀ file, env.get? "RPC_COOKIE_FILE" = some file → file ≠ "" →
    (∀ files, Credentials.resolve files s.nodeAccess = Credentials.ofCookie files file) ∧
    ∀ env', env.SameButLogin env' → ∃ s', ofEnvironment env' = .ok s' ∧
      ∀ acts acts', List.Forall₂ (Session.Act.SameAt file) acts acts' →
        (Session.run s.nodeAccess acts).calls = (Session.run s'.nodeAccess acts').calls ∧
        (Session.run s.nodeAccess acts).requests = (Session.run s'.nodeAccess acts').requests
  /-- Otherwise every call that looks for credentials sends its request, and all requests carry the
  user and the password of the environment. -/
  login : (∀ file, env.get? "RPC_COOKIE_FILE" = some file → file = "") →
    ∃ user password, env.get? "RPC_USER" = some user ∧ user ≠ "" ∧
      env.get? "RPC_PASSWORD" = some password ∧ password ≠ "" ∧
      (∀ acts, ∀ request ∈ (Session.run s.nodeAccess acts).requests,
        request.authorization = Credentials.header ⟨user, password⟩) ∧
      ∀ acts call files method abortable,
        (Session.run s.nodeAccess acts).calls[call]? = some (.resolving method abortable) →
        ∃ request, (Session.run s.nodeAccess (acts ++ [.reads call files])).requests =
            (Session.run s.nodeAccess acts).requests ++ [request] ∧
          (Session.run s.nodeAccess (acts ++ [.reads call files])).calls =
            (Session.run s.nodeAccess acts).calls.set call (.sent method)

/-- **Settings that are accepted have credentials: the client finds those of the cookie file, or
sends the user and the password with every call.** -/
theorem findsCredentials (h : ofEnvironment env = .ok s) : FindsCredentials env s where
  provided acts fault hmem :=
    Session.isProvided_run (isProviding_of_ofEnvironment h) acts _ hmem fault rfl
  cookie file hfile hne := by
    have hcookie := cookieFile_of_get? h hfile hne
    refine ⟨fun files => Credentials.resolve_of_cookieFile hcookie hne, fun env' hsame => ?_⟩
    obtain ⟨s', h', hhost, hcookie'⟩ := exists_of_sameButLogin h hfile hne hsame
    refine ⟨s', h', fun acts acts' hacts => ?_⟩
    have hmatches := Session.matches_run hne hhost.symm hcookie hcookie' hacts
    exact ⟨hmatches.calls, hmatches.requests⟩
  login hbare := by
    obtain ⟨hcookieless, user, password, huser, hne, hpassword, hne', huser', hpassword'⟩ :=
      exists_login h hbare
    have hresolve (files : Files) :
        Credentials.resolve files s.nodeAccess = .ok ⟨user, password⟩ :=
      Credentials.resolve_of_settings hcookieless huser' hne hpassword'
    refine ⟨user, password, huser, hne, hpassword, hne', Session.authorization_run hresolve,
      fun acts call files method abortable hcall => ?_⟩
    have hresolve' := hresolve files
    rw [← (Session.sound_run s.nodeAccess acts).access] at hresolve'
    rw [Session.run_concat, Session.step_reads_of_resolve hcall hresolve']
    exact ⟨_, rfl, rfl⟩

end Settings

/-- A user and a password, and a cookie file that has no name. -/
def Environment.withLogin : Environment :=
  ⟨[("RPC_COOKIE_FILE", ""), ("RPC_USER", "u"), ("RPC_PASSWORD", "p")]⟩

theorem findsCredentials_withLogin : ∃ s, Settings.ofEnvironment .withLogin = .ok s ∧
    Settings.FindsCredentials .withLogin s := by
  obtain ⟨s, h⟩ : ∃ s, Settings.ofEnvironment .withLogin = .ok s :=
    Settings.exists_of_isOk (by decide +kernel)
  exact ⟨s, h, Settings.findsCredentials h⟩

end NodeProbe
