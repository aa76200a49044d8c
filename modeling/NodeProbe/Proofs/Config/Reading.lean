import NodeProbe.Proofs.Bus.Subject
import NodeProbe.Proofs.Config.Address
import NodeProbe.Proofs.Config.Precedence

/-!
# Which environments are accepted

`Environment.demands` says what the checked variables are to hold, in the order of the checks. Each
reader decides its demand (`Reads`), and reading goes on only behind a demand that is met
(`Ends.bind`). So the settings are read exactly if every demand is met and there are credentials;
otherwise the first demand that is not met is named, and the credentials are missed only behind all
of them (`readsExactly`). What is read are the values themselves (`Settings.IsReadFrom`).
-/

namespace NodeProbe

/-! ## Whole numbers above zero -/

section Positive

variable {x : Float}

/-- What is accepted is a whole number above zero. -/
theorem exists_natCast_of_positiveProblem? (h : positiveProblem? x = none) :
    ∃ n : Nat, 0 < n ∧ Decimal.rational? x = some (n : ℚ) := by
  unfold positiveProblem? at h
  split at h
  · cases h
  split at h
  · cases h
  split at h
  · rename_i hinteger hpos
    rw [Bool.not_eq_true, Bool.not_eq_false'] at hinteger
    obtain ⟨i, hi⟩ := Decimal.isInteger_iff.mp hinteger
    have hpos' : 0 < i := Int.cast_pos.mp ((Decimal.zero_lt_iff_of_rational? hi).mp hpos)
    obtain ⟨n, rfl⟩ := Int.eq_ofNat_of_zero_le hpos'.le
    exact ⟨n, Int.natCast_pos.mp hpos', by rw [hi, Int.cast_natCast]⟩
  · cases h

theorem positiveProblem?_eq_none_iff :
    positiveProblem? x = none ↔ ∃ n : Nat, 0 < n ∧ Decimal.rational? x = some (n : ℚ) := by
  refine ⟨exists_natCast_of_positiveProblem?, ?_⟩
  rintro ⟨n, hn, hx⟩
  have hinteger : Decimal.isInteger x = true :=
    Decimal.isInteger_iff.mpr ⟨n, by rw [hx, Int.cast_natCast]⟩
  have hpos : x > 0 := (Decimal.zero_lt_iff_of_rational? hx).mpr (Nat.cast_pos.mpr hn)
  simp [positiveProblem?, Decimal.beq_self_of_rational? hx, hinteger, hpos]

end Positive

/-! ## Demands -/

/-- What a variable is to hold. An address and a count have a standard value. -/
inductive Demand where
  | address (standard : Text)
  | count (standard : Text)
  | subject

namespace Environment

/-- The checked variables and what they are to hold, in the order of the checks. -/
def demands : List (Text × Demand) :=
  [("RPC_HOST", .address "127.0.0.1:8332"), ("RPC_TIMEOUT_MS", .count "5000"),
    ("QUERY_INTERVAL_SECONDS", .count "10"), ("METRICS_ADDRESS", .address "127.0.0.1:8282"),
    ("NATS_ADDRESS", .address "127.0.0.1:4222"), ("NATS_SUBJECT_PREFIX", .subject)]

variable (env : Environment)

/-- The value of a variable, or the standard one if there is none or only an empty one. -/
def valueOr (key standard : Text) : Text :=
  match env.get? key with
  | none => standard
  | some t => if t = "" then standard else t

/-- The number that the value of a variable stands for. Here an empty value is one as well. -/
def numberOr (key standard : Text) : Float :=
  Decimal.coerce ((env.get? key).getD standard).toString

/-- A variable holds what it is to hold. -/
def Meets : Text × Demand → Prop
  | (key, .address standard) => ∃ a : Address, a.Spells (env.valueOr key standard) ∧ a.HasPort
  | (key, .count standard) =>
    ∃ n : Nat, 0 < n ∧ Decimal.rational? (env.numberOr key standard) = some (n : ℚ)
  | (key, .subject) => ∀ t, env.get? key = some t → t ≠ "" → ∃ tokens, t.IsDotted tokens

/-- All variables hold what they are to hold. -/
def IsValid : Prop :=
  ∀ d ∈ demands, env.Meets d

/-- A cookie file is named, or a user and a password are given. -/
def HasCredentials : Prop :=
  (∃ file, env.get? "RPC_COOKIE_FILE" = some file ∧ file ≠ "") ∨
    ∃ user password, env.get? "RPC_USER" = some user ∧ user ≠ "" ∧
      env.get? "RPC_PASSWORD" = some password ∧ password ≠ ""

/-- The first variable of some that does not hold what it is to hold. -/
inductive FirstBad : List (Text × Demand) → Text → Prop
  | here {key : Text} {demand : Demand} {ds : List (Text × Demand)} :
    ¬ env.Meets (key, demand) → FirstBad ((key, demand) :: ds) key
  | later {d : Text × Demand} {ds : List (Text × Demand)} {key : Text} :
    env.Meets d → FirstBad ds key → FirstBad (d :: ds) key

end Environment

section Demands

variable {env : Environment} {key : Text} {d : Text × Demand} {ds : List (Text × Demand)}

theorem Environment.nonEmpty?_eq_some_iff {t : Text} :
    env.nonEmpty? key = some t ↔ env.get? key = some t ∧ t ≠ "" :=
  Text.filter_isEmpty_eq_some_iff

theorem Environment.getD_nonEmpty? (standard : Text) :
    (env.nonEmpty? key).getD standard = env.valueOr key standard := by
  unfold nonEmpty? valueOr
  cases env.get? key with
  | none => rfl
  | some t =>
    by_cases ht : t = ""
    · subst ht
      rfl
    · have hkept : (some t).filter (!·.isEmpty) = some t :=
        Text.filter_isEmpty_eq_some_iff.mpr ⟨rfl, ht⟩
      rw [hkept]
      exact (if_neg ht).symm

theorem Environment.meets_congr {env' : Environment} (h : env.get? d.1 = env'.get? d.1) :
    env.Meets d ↔ env'.Meets d := by
  obtain ⟨key, standard | standard | _⟩ := d <;> simp only at h <;>
    simp only [Meets, valueOr, numberOr, h]

theorem Environment.FirstBad.not_all (h : env.FirstBad ds key) : ¬ ∀ d ∈ ds, env.Meets d := by
  induction h with
  | here hbad => exact fun hall => hbad (hall _ List.mem_cons_self)
  | later _ _ ih => exact fun hall => ih fun d hd => hall d (List.mem_cons_of_mem _ hd)

theorem Environment.FirstBad.unique {key' : Text} (h : env.FirstBad ds key)
    (h' : env.FirstBad ds key') : key = key' := by
  induction h with
  | here hbad =>
    cases h' with
    | here => rfl
    | later hmeets => exact absurd hmeets hbad
  | later hmeets _ ih =>
    cases h' with
    | here hbad => exact absurd hmeets hbad
    | later _ h' => exact ih h'

theorem hasCredentials_iff : Settings.hasCredentials (env.nonEmpty? "RPC_COOKIE_FILE")
    (env.nonEmpty? "RPC_USER") (env.get? "RPC_PASSWORD") = true ↔ env.HasCredentials := by
  simp only [Settings.hasCredentials, Bool.or_eq_true, Bool.and_eq_true,
    Option.isSome_iff_exists, Environment.nonEmpty?_eq_some_iff, Text.filter_isEmpty_eq_some_iff,
    Environment.HasCredentials]
  refine or_congr_right ⟨?_, ?_⟩
  · rintro ⟨⟨user, huser, hne⟩, password, hpassword, hne'⟩
    exact ⟨user, password, huser, hne, hpassword, hne'⟩
  · rintro ⟨user, password, huser, hne, hpassword, hne'⟩
    exact ⟨⟨user, huser, hne⟩, password, hpassword, hne'⟩

end Demands

/-! ## The readers -/

/-- A reader decides a demand: it returns something that is right if the demand is met, and it names
the variable if not. -/
inductive Reads (env : Environment) {α : Type} (Right : α → Prop) (d : Text × Demand) :
    Except ConfigFault α → Prop
  | ok {a : α} : env.Meets d → Right a → Reads env Right d (.ok a)
  | error {problem : ValueProblem} :
    ¬ env.Meets d → Reads env Right d (.error (.invalidValue d.1 problem))

section Readers

variable (env : Environment) (key standard : Text)

theorem reads_readAddress : Reads env (·.Spells (env.valueOr key standard))
    (key, .address standard) (Settings.readAddress env key standard) := by
  unfold Settings.readAddress
  rw [Environment.getD_nonEmpty?]
  rcases Address.parse_cases (env.valueOr key standard) with
    ⟨a, ha, hport, heq⟩ | ⟨a, ha, hport, heq⟩ | ⟨hnone, heq⟩ <;> rw [heq]
  · exact .ok ⟨a, ha, hport⟩ ha
  · refine .error ?_
    rintro ⟨b, hb, hbport⟩
    exact hport (ha.unique hb ▸ hbport)
  · exact .error fun ⟨b, hb, _⟩ => hnone ⟨b, hb⟩

theorem reads_readPositive : Reads env (· = env.numberOr key standard)
    (key, .count standard) (Settings.readPositive env key standard) := by
  unfold Settings.readPositive
  simp only
  rw [← Environment.numberOr]
  split
  · rename_i hnone
    exact .ok (positiveProblem?_eq_none_iff.mp hnone) rfl
  · rename_i problem hproblem
    refine .error fun hmeets => ?_
    cases hproblem.symm.trans (positiveProblem?_eq_none_iff.mpr hmeets)

theorem reads_readSubject : Reads env (· = env.nonEmpty? key) (key, .subject)
    (Settings.readSubject env key) := by
  unfold Settings.readSubject
  split
  · rename_i hnone
    refine .ok (fun t ht hne => ?_) hnone.symm
    exact absurd (Text.filter_isEmpty_eq_none_iff.mp hnone t ht) hne
  · rename_i base hbase
    obtain ⟨hget, hne⟩ := Environment.nonEmpty?_eq_some_iff.mp hbase
    split
    · rename_i hsubject
      refine .ok (fun t ht _ => ?_) hbase.symm
      obtain rfl := Option.some.inj (hget.symm.trans ht)
      exact isSubject_iff.mp hsubject
    · rename_i hsubject
      exact .error fun hmeets => hsubject (isSubject_iff.mpr (hmeets base hget hne))

end Readers

/-! ## The settings -/

/-- The settings are the values of the variables. -/
structure Settings.IsReadFrom (s : Settings) (env : Environment) : Prop where
  rpcHost : s.rpcHost.Spells (env.valueOr "RPC_HOST" "127.0.0.1:8332")
  cookieFile : s.cookieFile = env.nonEmpty? "RPC_COOKIE_FILE"
  rpcUser : s.rpcUser = env.nonEmpty? "RPC_USER"
  rpcPassword : s.rpcPassword = env.get? "RPC_PASSWORD"
  timeoutMs : s.timeoutMs = env.numberOr "RPC_TIMEOUT_MS" "5000"
  intervalSeconds : s.intervalSeconds = env.numberOr "QUERY_INTERVAL_SECONDS" "10"
  metricsAddress : s.metricsAddress.Spells (env.valueOr "METRICS_ADDRESS" "127.0.0.1:8282")
  bearerToken : s.bearerToken = env.nonEmpty? "METRICS_BEARER_TOKEN"
  busAddress : s.busAddress.Spells (env.valueOr "NATS_ADDRESS" "127.0.0.1:4222")
  busUser : s.busUser = env.nonEmpty? "NATS_USERNAME"
  busPassword : s.busPassword = env.get? "NATS_PASSWORD"
  busPasswordFile : s.busPasswordFile = env.nonEmpty? "NATS_PASSWORD_FILE"
  subjectBase : s.subjectBase = env.nonEmpty? "NATS_SUBJECT_PREFIX"
  /-- The calls whose switch is on, in the order of all calls. -/
  disabled : s.disabled = Method.all.filter fun m =>
    env.get? (switchKey m.name) = some "true" ∨ env.get? (switchKey m.name) = some "1"

/-- What reading some of the variables and looking for credentials may come to. -/
inductive Ends (env : Environment) (Right : Settings → Prop) (ds : List (Text × Demand)) :
    Except ConfigFault Settings → Prop
  | ok {s : Settings} :
    (∀ d ∈ ds, env.Meets d) → env.HasCredentials → Right s → Ends env Right ds (.ok s)
  | bare :
    (∀ d ∈ ds, env.Meets d) → ¬ env.HasCredentials → Ends env Right ds (.error .noCredentials)
  | bad {key : Text} {problem : ValueProblem} :
    env.FirstBad ds key → Ends env Right ds (.error (.invalidValue key problem))

section Ends

variable {env : Environment} {Right : Settings → Prop} {ds : List (Text × Demand)}

/-- One more variable is read in front of the others. -/
theorem Ends.bind {α : Type} {RightValue : α → Prop} {d : Text × Demand}
    {read : Except ConfigFault α} {next : α → Except ConfigFault Settings}
    (hread : Reads env RightValue d read)
    (hnext : ∀ a, RightValue a → Ends env Right ds (next a)) :
    Ends env Right (d :: ds) (read >>= next) := by
  cases hread with
  | @ok a hmeets hright =>
    have hends := hnext a hright
    show Ends env Right (d :: ds) (next a)
    generalize next a = result at hends
    cases hends with
    | ok hall hcredentials hs => exact .ok (List.forall_mem_cons.mpr ⟨hmeets, hall⟩) hcredentials hs
    | bare hall hnone => exact .bare (List.forall_mem_cons.mpr ⟨hmeets, hall⟩) hnone
    | bad hbad => exact .bad (.later hmeets hbad)
  | error hnot => exact .bad (.here hnot)

theorem ends_credentials {s : Settings} (hs : Right s) :
    Ends env Right []
      (if Settings.hasCredentials (env.nonEmpty? "RPC_COOKIE_FILE") (env.nonEmpty? "RPC_USER")
        (env.get? "RPC_PASSWORD") then .ok s else .error .noCredentials) := by
  by_cases hcredentials : env.HasCredentials
  · rw [if_pos (hasCredentials_iff.mpr hcredentials)]
    exact .ok (List.forall_mem_nil _) hcredentials hs
  · rw [if_neg (mt hasCredentials_iff.mp hcredentials)]
    exact .bare (List.forall_mem_nil _) hcredentials

end Ends

theorem Settings.isSwitchedOff_iff (env : Environment) (m : Method) :
    isSwitchedOff env m = true ↔ env.get? (switchKey m.name) = some "true" ∨
      env.get? (switchKey m.name) = some "1" := by
  unfold isSwitchedOff
  cases env.get? (switchKey m.name) with
  | none => simp
  | some value => simp

/-- The variables are read one after the other, and the credentials are looked for last. -/
theorem ends_ofEnvironment (env : Environment) :
    Ends env (·.IsReadFrom env) Environment.demands (Settings.ofEnvironment env) := by
  unfold Settings.ofEnvironment Environment.demands
  refine .bind (reads_readAddress env _ _) fun rpcHost hrpcHost => ?_
  refine .bind (reads_readPositive env _ _) fun timeoutMs htimeoutMs => ?_
  refine .bind (reads_readPositive env _ _) fun intervalSeconds hintervalSeconds => ?_
  refine .bind (reads_readAddress env _ _) fun metricsAddress hmetricsAddress => ?_
  refine .bind (reads_readAddress env _ _) fun busAddress hbusAddress => ?_
  refine .bind (reads_readSubject env _) fun subjectBase hsubjectBase => ?_
  refine ends_credentials ⟨hrpcHost, rfl, rfl, rfl, htimeoutMs, hintervalSeconds, hmetricsAddress,
    rfl, hbusAddress, rfl, rfl, rfl, hsubjectBase, ?_⟩
  refine List.filter_congr fun m _ => ?_
  rw [Bool.eq_iff_iff, Settings.isSwitchedOff_iff, decide_eq_true_iff]

namespace Settings

variable {env : Environment} {s : Settings}

/-- What is accepted meets every demand. -/
theorem isReadFrom_of_ofEnvironment (h : ofEnvironment env = .ok s) :
    env.IsValid ∧ env.HasCredentials ∧ s.IsReadFrom env := by
  have hends := ends_ofEnvironment env
  rw [h] at hends
  cases hends with
  | ok hvalid hcredentials hs => exact ⟨hvalid, hcredentials, hs⟩

theorem exists_ofEnvironment_iff :
    (∃ s, ofEnvironment env = .ok s) ↔ env.IsValid ∧ env.HasCredentials := by
  have hends := ends_ofEnvironment env
  generalize ofEnvironment env = result at hends ⊢
  cases hends with
  | ok hvalid hcredentials => exact iff_of_true ⟨_, rfl⟩ ⟨hvalid, hcredentials⟩
  | bare _ hnone => exact iff_of_false (fun ⟨_, h⟩ => nomatch h) fun h => hnone h.2
  | bad hbad => exact iff_of_false (fun ⟨_, h⟩ => nomatch h) fun h => hbad.not_all h.1

/-- The first bad variable is the one that is named. -/
theorem exists_invalidValue_iff {key : Text} :
    (∃ problem, ofEnvironment env = .error (.invalidValue key problem)) ↔
      env.FirstBad Environment.demands key := by
  have hends := ends_ofEnvironment env
  generalize ofEnvironment env = result at hends ⊢
  cases hends with
  | ok hvalid => exact iff_of_false (fun ⟨_, h⟩ => nomatch h) fun h => h.not_all hvalid
  | bare hvalid => exact iff_of_false (fun ⟨_, h⟩ => nomatch h) fun h => h.not_all hvalid
  | bad hbad =>
    constructor
    · rintro ⟨problem, h⟩
      cases h
      exact hbad
    · intro h
      exact ⟨_, by rw [h.unique hbad]⟩

theorem noCredentials_iff :
    ofEnvironment env = .error .noCredentials ↔ env.IsValid ∧ ¬ env.HasCredentials := by
  have hends := ends_ofEnvironment env
  generalize ofEnvironment env = result at hends ⊢
  cases hends with
  | ok _ hcredentials => exact iff_of_false nofun fun h => h.2 hcredentials
  | bare hvalid hnone => exact iff_of_true rfl ⟨hvalid, hnone⟩
  | bad hbad => exact iff_of_false nofun fun h => hbad.not_all h.1

theorem exists_of_isOk (h : (ofEnvironment env).isOk = true) : ∃ s, ofEnvironment env = .ok s := by
  cases hread : ofEnvironment env with
  | error fault =>
    rw [hread] at h
    cases h
  | ok s => exact ⟨s, rfl⟩

end Settings

theorem positiveProblem?_of_ofEnvironment {env : Environment} {s : Settings}
    (h : Settings.ofEnvironment env = .ok s) :
    positiveProblem? s.timeoutMs = none ∧ positiveProblem? s.intervalSeconds = none := by
  obtain ⟨hvalid, -, hs⟩ := Settings.isReadFrom_of_ofEnvironment h
  rw [hs.timeoutMs, hs.intervalSeconds]
  have htimeout := hvalid ("RPC_TIMEOUT_MS", .count "5000") (by simp [Environment.demands])
  have hinterval := hvalid ("QUERY_INTERVAL_SECONDS", .count "10") (by simp [Environment.demands])
  exact ⟨positiveProblem?_eq_none_iff.mpr htimeout, positiveProblem?_eq_none_iff.mpr hinterval⟩

/-- How the settings are read from an environment. -/
structure ReadsExactly (env : Environment) : Prop where
  /-- There are settings if every variable holds what it is to hold, and there are credentials. -/
  accepts : (∃ s, Settings.ofEnvironment env = .ok s) ↔ env.IsValid ∧ env.HasCredentials
  /-- The first variable that does not is named. -/
  names : ∀ key, (∃ problem, Settings.ofEnvironment env = .error (.invalidValue key problem)) ↔
    env.FirstBad Environment.demands key
  /-- The credentials are missed only if all is right with the variables. -/
  misses : Settings.ofEnvironment env = .error .noCredentials ↔
    env.IsValid ∧ ¬ env.HasCredentials
  /-- Nothing else can be wrong. -/
  faults : ∀ fault, Settings.ofEnvironment env = .error fault →
    fault = .noCredentials ∨ ∃ key problem, fault = .invalidValue key problem
  /-- The settings are the values. -/
  values : ∀ s, Settings.ofEnvironment env = .ok s → s.IsReadFrom env
  /-- Other variables do not matter. -/
  ignores : ∀ env' : Environment, (∀ key ∈ Settings.variableNames, env.get? key = env'.get? key) →
    Settings.ofEnvironment env' = Settings.ofEnvironment env

/-- **The settings are read exactly from the environments in which every variable holds what it is
to hold and in which there are credentials; in all others the first thing that is wrong is
named.** -/
theorem readsExactly (env : Environment) : ReadsExactly env where
  accepts := Settings.exists_ofEnvironment_iff
  names _ := Settings.exists_invalidValue_iff
  misses := Settings.noCredentials_iff
  faults fault h := by
    have hends := ends_ofEnvironment env
    rw [h] at hends
    cases hends with
    | bare => exact .inl rfl
    | bad => exact .inr ⟨_, _, rfl⟩
  values s h := (Settings.isReadFrom_of_ofEnvironment h).2.2
  ignores env' h := (Settings.ofEnvironment_congr h).symm

end NodeProbe
