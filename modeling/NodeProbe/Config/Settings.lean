import NodeProbe.Config.Address

/-!
# Settings

`Settings.ofEnvironment` reads the settings from the variables of the environment. A variable that
is absent, and for most of them also one that is empty, has a default; each value is checked in a
fixed order, and the first bad one is named. Last it is seen to that there are credentials for the
node: a cookie file, or a user and a password. `report` lists settings for the log and hides the
secret ones.
-/

namespace NodeProbe

/-- The variables of a process. -/
structure Environment where
  bindings : List (Text × Text)

namespace Environment

/-- The value of a variable. -/
def get? (env : Environment) (key : Text) : Option Text :=
  env.bindings.lookup key

/-- The value of a variable that is not empty. -/
def nonEmpty? (env : Environment) (key : Text) : Option Text :=
  (env.get? key).filter (!·.isEmpty)

/-- A text up to the first NUL. -/
def untilNul (t : Text) : Text :=
  ⟨t.units.takeWhile (· ≠ 0)⟩

/-- A text as the operating system keeps it: it consists of characters, and ends in front of the
first NUL. -/
def kept (t : Text) : Text :=
  (untilNul t).mended

/-- Sets a variable of a process. A name that is empty or holds an equals sign names none. -/
def set (env : Environment) (key value : Text) : Environment :=
  let name := kept key
  if name = "" || name.units.contains (Text.unit '=') then env
  else ⟨env.bindings.filter (·.1 ≠ name) ++ [(name, kept value)]⟩

/-- The environment of a process that was given these variables one after the other. -/
def ofProcess (given : List (Text × Text)) : Environment :=
  given.foldl (fun env v => env.set v.1 v.2) ⟨[]⟩

/-- Adds the variables that are not there yet. -/
def extend (env : Environment) (more : List (Text × Text)) : Environment :=
  ⟨env.bindings ++
    (more.filter fun v => (env.get? v.1).isNone).map fun (key, value) => (key, untilNul value)⟩

end Environment

/-- The settings of the program. -/
structure Settings where
  rpcHost : Address
  cookieFile : Option Text
  rpcUser : Option Text
  rpcPassword : Option Text
  timeoutMs : Float
  intervalSeconds : Float
  metricsAddress : Address
  bearerToken : Option Text
  busAddress : Address
  busUser : Option Text
  busPassword : Option Text
  busPasswordFile : Option Text
  subjectBase : Option Text
  disabled : List Method

/-! ## Reading -/

/-- What divides the parts of a subject. -/
def dot : UInt16 := Text.unit '.'

/-- May stand between the dots of a subject. -/
def isSubjectUnit (u : UInt16) : Bool :=
  (97 ≤ u.toNat && u.toNat ≤ 122) || (48 ≤ u.toNat && u.toNat ≤ 57) || u = Text.unit '_' ||
    u = Text.unit '-'

/-- A subject in lower case: parts that are not empty, with dots between them. `begun` says whether
the current part has a character already. -/
def isSubject (begun : Bool) : List UInt16 → Bool
  | [] => begun
  | u :: rest =>
    if u = dot then begun && isSubject false rest else isSubjectUnit u && isSubject true rest

/-- A whole number above zero. -/
def positiveProblem? (x : Float) : Option Problem :=
  if !(x == x) then some (.wrongType "number" "nan")
  else if !Decimal.isInteger x then some .fraction
  else if x > 0 then none
  else some .notPositive

namespace Settings

/-- Reads a variable that holds an address. -/
def readAddress (env : Environment) (key standard : Text) : Except ConfigFault Address :=
  match Address.parse ((env.nonEmpty? key).getD standard) with
  | .ok a => .ok a
  | .error problem => .error (.invalidValue key problem)

/-- Reads a variable that holds a whole number above zero. An empty text is zero. -/
def readPositive (env : Environment) (key standard : Text) : Except ConfigFault Float :=
  let x := Decimal.coerce ((env.get? key).getD standard).toString
  match positiveProblem? x with
  | none => .ok x
  | some problem => .error (.invalidValue key (.number problem))

/-- Reads the variable that holds the base of the subjects. -/
def readSubject (env : Environment) (key : Text) : Except ConfigFault (Option Text) :=
  match env.nonEmpty? key with
  | none => .ok none
  | some base =>
    if isSubject false base.units then .ok (some base)
    else .error (.invalidValue key .notSubject)

/-- The switch of a call is on. -/
def isSwitchedOff (env : Environment) (method : Method) : Bool :=
  match env.get? (switchKey method.name) with
  | some value => value = "true" || value = "1"
  | none => false

/-- There is a cookie file, or a user and a password. -/
def hasCredentials (cookieFile user password : Option Text) : Bool :=
  cookieFile.isSome || (user.isSome && (password.filter (!·.isEmpty)).isSome)

/-- The variables that hold settings. -/
def variableNames : List Text :=
  (["RPC_HOST", "RPC_COOKIE_FILE", "RPC_USER", "RPC_PASSWORD", "RPC_TIMEOUT_MS",
    "QUERY_INTERVAL_SECONDS", "METRICS_ADDRESS", "METRICS_BEARER_TOKEN", "NATS_ADDRESS",
    "NATS_USERNAME", "NATS_PASSWORD", "NATS_PASSWORD_FILE", "NATS_SUBJECT_PREFIX"] : List Text) ++
    Method.all.map fun m => switchKey m.name

/-- Reads the settings. -/
def ofEnvironment (env : Environment) : Except ConfigFault Settings := do
  let rpcHost ← readAddress env "RPC_HOST" "127.0.0.1:8332"
  let timeoutMs ← readPositive env "RPC_TIMEOUT_MS" "5000"
  let intervalSeconds ← readPositive env "QUERY_INTERVAL_SECONDS" "10"
  let metricsAddress ← readAddress env "METRICS_ADDRESS" "127.0.0.1:8282"
  let busAddress ← readAddress env "NATS_ADDRESS" "127.0.0.1:4222"
  let subjectBase ← readSubject env "NATS_SUBJECT_PREFIX"
  let cookieFile := env.nonEmpty? "RPC_COOKIE_FILE"
  let rpcUser := env.nonEmpty? "RPC_USER"
  let rpcPassword := env.get? "RPC_PASSWORD"
  if hasCredentials cookieFile rpcUser rpcPassword then
    .ok
      { rpcHost, cookieFile, rpcUser, rpcPassword, timeoutMs, intervalSeconds, metricsAddress,
        bearerToken := env.nonEmpty? "METRICS_BEARER_TOKEN"
        busAddress
        busUser := env.nonEmpty? "NATS_USERNAME"
        busPassword := env.get? "NATS_PASSWORD"
        busPasswordFile := env.nonEmpty? "NATS_PASSWORD_FILE"
        subjectBase
        disabled := Method.all.filter (isSwitchedOff env) }
  else .error .noCredentials

end Settings

/-! ## The report -/

/-- The value of a setting. -/
inductive SettingValue where
  | absent
  | text (s : Text)
  | number (x : Float)
  | names (items : List Text)

namespace SettingValue

/-- A text that may be missing. -/
def ofOption (s : Option Text) : SettingValue :=
  match s with
  | some s => text s
  | none => absent

/-- The value in the report. -/
def shown : SettingValue → Text
  | absent => ""
  | text s => s
  | number x => Decimal.text x
  | names items =>
    let list := Text.joined "," items
    if list = "" then "none" else list

/-- There is something to hide. -/
def isSet : SettingValue → Bool
  | absent => false
  | text s => s ≠ ""
  | number x => x == x && !(x == 0)
  | names _ => true

end SettingValue

/-- The settings that are secret. -/
def secretKeys : List Text :=
  ["RPC_PASSWORD", "NATS_PASSWORD", "METRICS_BEARER_TOKEN"]

/-- A line of the report. -/
def reportLine (key : Text) (value : SettingValue) : Text :=
  "  " ++ key ++ "\t" ++
    if secretKeys.contains key && value.isSet then ("[redacted]" : Text) else value.shown

/-- The report of a list of settings. -/
def report (entries : List (Text × SettingValue)) : Text :=
  Text.joined "\n" (entries.map fun (key, value) => reportLine key value)

namespace Settings

/-- The settings by their names. -/
def entries (s : Settings) : List (Text × SettingValue) :=
  [("RPC_HOST", .text s.rpcHost.text),
    ("RPC_COOKIE_FILE", .ofOption s.cookieFile),
    ("RPC_USER", .ofOption s.rpcUser),
    ("RPC_PASSWORD", .ofOption s.rpcPassword),
    ("RPC_TIMEOUT_MS", .number s.timeoutMs),
    ("QUERY_INTERVAL_SECONDS", .number s.intervalSeconds),
    ("METRICS_ADDRESS", .text s.metricsAddress.text),
    ("METRICS_BEARER_TOKEN", .ofOption s.bearerToken),
    ("NATS_ADDRESS", .text s.busAddress.text),
    ("NATS_USERNAME", .ofOption s.busUser),
    ("NATS_PASSWORD", .ofOption s.busPassword),
    ("NATS_PASSWORD_FILE", .ofOption s.busPasswordFile),
    ("NATS_SUBJECT_PREFIX", .ofOption s.subjectBase),
    ("DISABLED_METHODS", .names (s.disabled.map fun m => m.name))]

/-- The report of the settings. -/
def report (s : Settings) : Text :=
  NodeProbe.report s.entries

end Settings

end NodeProbe
