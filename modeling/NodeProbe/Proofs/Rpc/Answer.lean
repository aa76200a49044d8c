import NodeProbe.Proofs.Publishing
import NodeProbe.Proofs.Rpc.Requests
import NodeProbe.Proofs.Shape

/-!
# What becomes of a call to the node

A call returns the result of an envelope without an error, and of nothing else; any other call fails
because of the first stage that fails, in words `Client.Diagnosis`. The stages cover everything that
may come back, with one gap: a request, or the reading of a body, may fail with a value that has no
text, and then that is what the call fails with (`Client.classifies_iff`).
-/

namespace NodeProbe

/-! ## Envelopes -/

/-- The number of an answer as the node may give it. -/
def Json.IsTag (v : Json) : Prop :=
  (∃ x, v = .number x) ∨ (∃ t, v = .string t) ∨ v = .null

namespace Envelope

/-- The error that a value reports. -/
inductive Reports (v : Json) : Option (Float × Text) → Prop
  | absent : v.field? "error" = none → Reports v none
  | null : v.field? "error" = some .null → Reports v none
  | error {e : Json} {code : Float} {message : Text} :
    v.field? "error" = some e → e.field? "code" = some (.number code) →
    e.field? "message" = some (.string message) → Reports v (some (code, message))

/-- A value is this envelope, whatever else there is in it. -/
structure IsIn (envelope : Envelope) (v : Json) : Prop where
  object : v.IsObject
  tagged : ∃ tag, v.field? "id" = some tag ∧ tag.IsTag
  result : envelope.result = v.field? "result"
  error : Reports v envelope.error

variable {v : Json} {error : Option (Float × Text)} {envelope : Envelope}

theorem hasId_iff : hasId v = true ↔ ∃ tag, v.field? "id" = some tag ∧ tag.IsTag := by
  unfold hasId
  cases v.field? "id" with
  | none => simp
  | some tag => cases tag <;> simp [Json.IsTag]

theorem error?_eq_some_iff : error? v = some error ↔ Reports v error := by
  unfold error?
  constructor
  · intro h
    split at h
    · obtain rfl := Option.some.inj h
      exact .absent ‹_›
    · obtain rfl := Option.some.inj h
      exact .null ‹_›
    · split at h
      · obtain rfl := Option.some.inj h
        exact .error ‹_› ‹_› ‹_›
      · cases h
  · intro h
    cases h with
    | absent herror => rw [herror]
    | null herror => rw [herror]
    | @error e code message herror hcode hmessage =>
      cases e with
      | null => cases hcode
      | _ => simp only [herror, hcode, hmessage]

theorem isObject_of_field? {key : Text} {w : Json} (h : v.field? key = some w) : v.IsObject := by
  cases v with
  | object fields => exact ⟨fields, rfl⟩
  | _ => cases h

theorem ofJson?_eq_some_iff : ofJson? v = some envelope ↔ envelope.IsIn v := by
  unfold ofJson?
  constructor
  · intro h
    split at h
    · rename_i error herror
      split at h
      · rename_i hid
        obtain rfl := Option.some.inj h
        obtain ⟨tag, htag, his⟩ := hasId_iff.mp hid
        exact ⟨isObject_of_field? htag, ⟨tag, htag, his⟩, rfl, error?_eq_some_iff.mp herror⟩
      · cases h
    · cases h
  · intro h
    obtain ⟨result, error⟩ := envelope
    obtain rfl : result = v.field? "result" := h.result
    rw [error?_eq_some_iff.mpr h.error]
    exact if_pos (hasId_iff.mpr h.tagged)

end Envelope

/-! ## Exchanges -/

namespace Exchange

/-- The status of an answer. -/
def status? : Exchange → Option Nat
  | answered status _ | broken status _ => some status
  | rejected _ _ => none

/-- An answer is an envelope without an error, and this is its result. -/
inductive Returns : Exchange → Option Json → Prop
  | intro {status : Nat} {body : Bytes} {v : Json} {result : Option Json} :
    status ≠ 401 → status ≠ 403 →
    Json.parse? (Text.Utf8.decodeUnmarked body) = some v → Envelope.IsIn ⟨result, none⟩ v →
    Returns (.answered status body) result

/-- Why an exchange fails: the first stage that fails. -/
inductive Shows (host : Text) : Exchange → CallFailure → Prop
  | unreachable {fault : Fault} {cause : Option Fault} {detail : Text} :
    (blame fault cause).message = .ok detail →
    Shows host (.rejected fault cause) (.network (.unreachable host detail))
  /-- The status decides, also when the body could not be read. -/
  | refused {exchange : Exchange} {status : Nat} :
    exchange.status? = some status → status = 401 ∨ status = 403 →
    Shows host exchange (.auth (.rejected status))
  | dropped {status : Nat} {fault : Fault} {detail : Text} :
    status ≠ 401 → status ≠ 403 → fault.message = .ok detail →
    Shows host (.broken status fault) (.network (.dropped detail))
  | notJson {status : Nat} {body : Bytes} :
    status ≠ 401 → status ≠ 403 →
    Json.parse? (Text.Utf8.decodeUnmarked body) = none →
    Shows host (.answered status body) (.decode (.notJson status))
  | notEnvelope {status : Nat} {body : Bytes} {v : Json} :
    status ≠ 401 → status ≠ 403 →
    Json.parse? (Text.Utf8.decodeUnmarked body) = some v →
    (∀ envelope, ¬ Envelope.IsIn envelope v) →
    Shows host (.answered status body) (.decode (.notEnvelope status))
  | reported {status : Nat} {body : Bytes} {v : Json} {result : Option Json} {code : Float}
      {message : Text} :
    status ≠ 401 → status ≠ 403 →
    Json.parse? (Text.Utf8.decodeUnmarked body) = some v →
    Envelope.IsIn ⟨result, some (code, message)⟩ v →
    Shows host (.answered status body) (.response (some code) (some message))

/-- The request failed with a value that has no text, or so did the reading of a body whose status
does not decide. -/
def IsTextless : Exchange → Prop
  | rejected fault cause => (blame fault cause).isReadable = false
  | broken status fault => status ≠ 401 ∧ status ≠ 403 ∧ fault.isReadable = false
  | answered _ _ => False

variable {host method : Text} {exchange : Exchange} {result : Option Json} {failure : CallFailure}

theorem rejectsCredentials_iff {status : Nat} :
    rejectsCredentials status = true ↔ status = 401 ∨ status = 403 := by
  simp [rejectsCredentials]

theorem rejectsCredentials_of_ne {status : Nat} (h401 : status ≠ 401) (h403 : status ≠ 403) :
    rejectsCredentials status = false := by
  simp [rejectsCredentials, h401, h403]

theorem read_of_returns (h : exchange.Returns result) : exchange.read host method = .ok result := by
  obtain ⟨h401, h403, hparse, hin⟩ := h
  simp only [read, rejectsCredentials_of_ne h401 h403, readAnswer, hparse,
    Envelope.ofJson?_eq_some_iff.mpr hin]
  rfl

theorem networkFault_of_message {cause : Text → NetworkCause} {fault : Fault} {detail : Text}
    (h : fault.message = .ok detail) :
    networkFault method cause fault = .call ⟨method, .network (cause detail)⟩ := by
  simp only [networkFault, h]

theorem networkFault_of_not_isReadable {cause : Text → NetworkCause} {fault : Fault}
    (h : fault.isReadable = false) : networkFault method cause fault = .textless := by
  simp only [networkFault, Fault.isReadable_eq_false_iff.mp h]

theorem read_of_shows (h : exchange.Shows host failure) :
    exchange.read host method = .error (.call ⟨method, failure⟩) := by
  cases h with
  | unreachable hmessage => rw [read, networkFault_of_message hmessage]
  | @refused _ status hstatus hrefused =>
    have hrejects := rejectsCredentials_iff.mpr hrefused
    cases exchange with
    | rejected fault cause => cases hstatus
    | answered status' body =>
      obtain rfl := Option.some.inj hstatus
      simp only [read, hrejects, if_true]
    | broken status' fault =>
      obtain rfl := Option.some.inj hstatus
      simp only [read, hrejects, if_true]
  | dropped h401 h403 hmessage =>
    simp only [read, rejectsCredentials_of_ne h401 h403, networkFault_of_message hmessage]
    rfl
  | notJson h401 h403 hparse =>
    simp only [read, rejectsCredentials_of_ne h401 h403, readAnswer, hparse]
    rfl
  | @notEnvelope _ _ v h401 h403 hparse hnot =>
    have hnone : Envelope.ofJson? v = none :=
      Option.eq_none_iff_forall_ne_some.mpr fun envelope h =>
        hnot envelope (Envelope.ofJson?_eq_some_iff.mp h)
    simp only [read, rejectsCredentials_of_ne h401 h403, readAnswer, hparse, hnone]
    rfl
  | reported h401 h403 hparse hin =>
    simp only [read, rejectsCredentials_of_ne h401 h403, readAnswer, hparse,
      Envelope.ofJson?_eq_some_iff.mpr hin]
    rfl

/-- An answer whose status does not decide says something about the call. -/
theorem returns_or_shows_answered {status : Nat} {body : Bytes} (h401 : status ≠ 401)
    (h403 : status ≠ 403) :
    (∃ result, (answered status body).Returns result) ∨
      ∃ failure, (answered status body).Shows host failure := by
  cases hparse : Json.parse? (Text.Utf8.decodeUnmarked body) with
  | none => exact .inr ⟨_, .notJson h401 h403 hparse⟩
  | some v =>
    by_cases hin : ∃ envelope, Envelope.IsIn envelope v
    · obtain ⟨⟨result, error⟩, hin⟩ := hin
      cases error with
      | none => exact .inl ⟨_, .intro h401 h403 hparse hin⟩
      | some error => exact .inr ⟨_, .reported h401 h403 hparse hin⟩
    · exact .inr ⟨_, .notEnvelope h401 h403 hparse (not_exists.mp hin)⟩

/-- Whatever comes back, one of the stages decides, unless there is no text. -/
theorem returns_or_shows (host : Text) (exchange : Exchange) :
    (∃ result, exchange.Returns result) ∨ (∃ failure, exchange.Shows host failure) ∨
      exchange.IsTextless := by
  by_cases hrefused : ∃ status, exchange.status? = some status ∧ (status = 401 ∨ status = 403)
  · obtain ⟨status, hstatus, hrefused⟩ := hrefused
    exact .inr (.inl ⟨_, .refused hstatus hrefused⟩)
  · cases exchange with
    | rejected fault cause =>
      rcases (blame fault cause).exists_message_or_not_isReadable with ⟨_, hmessage⟩ | htextless
      · exact .inr (.inl ⟨_, .unreachable hmessage⟩)
      · exact .inr (.inr htextless)
    | answered status body =>
      obtain ⟨h401, h403⟩ : status ≠ 401 ∧ status ≠ 403 := by simpa [status?] using hrefused
      rcases returns_or_shows_answered h401 h403 with hreturns | hshows
      · exact .inl hreturns
      · exact .inr (.inl hshows)
    | broken status fault =>
      obtain ⟨h401, h403⟩ : status ≠ 401 ∧ status ≠ 403 := by simpa [status?] using hrefused
      rcases fault.exists_message_or_not_isReadable with ⟨_, hmessage⟩ | htextless
      · exact .inr (.inl ⟨_, .dropped h401 h403 hmessage⟩)
      · exact .inr (.inr ⟨h401, h403, htextless⟩)

theorem read_of_isTextless (h : exchange.IsTextless) :
    exchange.read host method = .error .textless := by
  cases exchange with
  | rejected fault cause => rw [read, networkFault_of_not_isReadable h]
  | broken status fault =>
    obtain ⟨h401, h403, htextless⟩ := h
    simp only [read, rejectsCredentials_of_ne h401 h403, networkFault_of_not_isReadable htextless]
    rfl
  | answered status body => cases h

end Exchange

/-! ## Calls -/

namespace NodeAccess

/-- There are credentials for the next call. -/
def HasCredentials (access : NodeAccess) (files : Files) : Prop :=
  ∃ secret, access.Gives files (.ok secret)

end NodeAccess

namespace Client

/-- Why a call fails: the first stage that fails. -/
inductive Diagnosis (files : Files) (access : NodeAccess) (exchange : Exchange) :
    CallFailure → Prop
  | credentials {cause : AuthCause} :
    access.Gives files (.error cause) → Diagnosis files access exchange (.auth cause)
  | exchange {failure : CallFailure} :
    access.HasCredentials files → exchange.Shows access.host failure →
    Diagnosis files access exchange failure

/-- A call ends as its stages say. -/
structure Classifies (c : Client) (files : Files) (method : Text) (abortable : Bool)
    (exchange : Exchange) : Prop where
  /-- A request is sent exactly if there are credentials for it. -/
  sends : (c.call files method abortable exchange).2.1.isSome ↔ c.access.HasCredentials files
  /-- The call returns the result of an envelope without an error, and nothing else. -/
  returns : ∀ result, (c.call files method abortable exchange).2.2 = .ok result ↔
    c.access.HasCredentials files ∧ exchange.Returns result
  /-- Any other call fails as a call of this method, and for the first reason that there is. -/
  fails : ∀ fault, (c.call files method abortable exchange).2.2 = .error fault ↔
    ∃ failure, fault = .call ⟨method, failure⟩ ∧ Diagnosis files c.access exchange failure

/-- There are credentials, and what the request or the reading of the body failed with has no
text. -/
def IsTextless (c : Client) (files : Files) (exchange : Exchange) : Prop :=
  c.access.HasCredentials files ∧ exchange.IsTextless

variable {c : Client} {files : Files} {method : Text} {abortable : Bool} {exchange : Exchange}

theorem call_of_hasCredentials (h : c.access.HasCredentials files) :
    (c.call files method abortable exchange).2.1.isSome ∧
      (c.call files method abortable exchange).2.2 = exchange.read c.access.host method := by
  obtain ⟨secret, hgives⟩ := h
  obtain ⟨request, hprepare, -⟩ := prepare_of_gives hgives method abortable
  rw [call, hprepare]
  exact ⟨rfl, rfl⟩

theorem call_of_gives_error {cause : AuthCause} (h : c.access.Gives files (.error cause)) :
    c.call files method abortable exchange = (c, none, .error (.call ⟨method, .auth cause⟩)) := by
  rw [call, prepare_of_gives_error h]

theorem isSome_request_iff :
    (c.call files method abortable exchange).2.1.isSome ↔ c.access.HasCredentials files := by
  constructor
  · intro h
    rcases c.access.gives_error_or_gives files with ⟨cause, hgives⟩ | hcredentials
    · rw [call_of_gives_error hgives] at h
      cases h
    · exact hcredentials
  · intro h
    exact (call_of_hasCredentials h).1

theorem settlement_of_diagnosis {failure : CallFailure}
    (h : Diagnosis files c.access exchange failure) :
    (c.call files method abortable exchange).2.2 = .error (.call ⟨method, failure⟩) := by
  cases h with
  | credentials hgives => rw [call_of_gives_error hgives]
  | exchange hcredentials hshows =>
    rw [(call_of_hasCredentials hcredentials).2, Exchange.read_of_shows hshows]

theorem settlement_of_returns {result : Option Json} (hcredentials : c.access.HasCredentials files)
    (hreturns : exchange.Returns result) :
    (c.call files method abortable exchange).2.2 = .ok result := by
  rw [(call_of_hasCredentials hcredentials).2, Exchange.read_of_returns hreturns]

theorem settlement_of_isTextless (h : c.IsTextless files exchange) :
    (c.call files method abortable exchange).2.2 = .error .textless := by
  rw [(call_of_hasCredentials h.1).2, Exchange.read_of_isTextless h.2]

/-- The stages cover every call. -/
theorem returns_or_diagnosis (c : Client) (files : Files) (exchange : Exchange)
    (h : ¬ c.IsTextless files exchange) :
    (c.access.HasCredentials files ∧ ∃ result, exchange.Returns result) ∨
      ∃ failure, Diagnosis files c.access exchange failure := by
  rcases c.access.gives_error_or_gives files with ⟨cause, hgives⟩ | hcredentials
  · exact .inr ⟨_, .credentials hgives⟩
  · rcases exchange.returns_or_shows c.access.host with hreturns | ⟨failure, hshows⟩ | htextless
    · exact .inl ⟨hcredentials, hreturns⟩
    · exact .inr ⟨failure, .exchange hcredentials hshows⟩
    · exact absurd ⟨hcredentials, htextless⟩ h

theorem classifies_of_not_isTextless (h : ¬ c.IsTextless files exchange) :
    c.Classifies files method abortable exchange where
  sends := isSome_request_iff
  returns result := by
    constructor
    · intro hresult
      rcases c.returns_or_diagnosis files exchange h with ⟨hcredentials, _, hreturns⟩ | ⟨_, hd⟩
      · obtain rfl :=
          Except.ok.inj ((settlement_of_returns hcredentials hreturns).symm.trans hresult)
        exact ⟨hcredentials, hreturns⟩
      · cases (settlement_of_diagnosis hd).symm.trans hresult
    · rintro ⟨hcredentials, hreturns⟩
      exact settlement_of_returns hcredentials hreturns
  fails fault := by
    constructor
    · intro hfault
      rcases c.returns_or_diagnosis files exchange h with ⟨hcredentials, result, hreturns⟩ | ⟨_, hd⟩
      · cases (settlement_of_returns hcredentials hreturns).symm.trans hfault
      · exact ⟨_, (Except.error.inj ((settlement_of_diagnosis hd).symm.trans hfault)).symm, hd⟩
    · rintro ⟨failure, rfl, hdiagnosis⟩
      exact settlement_of_diagnosis hdiagnosis

/-- **A call ends as its stages say, unless its request or the reading of the body failed with a
value that has no text.** -/
theorem classifies_iff (c : Client) (files : Files) (method : Text) (abortable : Bool)
    (exchange : Exchange) :
    c.Classifies files method abortable exchange ↔ ¬ c.IsTextless files exchange := by
  constructor
  · intro h htextless
    -- What has no text is not the fault of a call.
    obtain ⟨failure, hfault, -⟩ := (h.fails _).mp (settlement_of_isTextless htextless)
    cases hfault
  · exact classifies_of_not_isTextless

/-- Such a failure is not put down to the network. -/
theorem not_classifies_textlessObject :
    ¬ Classifies (new ⟨"h", none, some "u", some "p"⟩) Files.empty "uptime" false
      (.rejected .textlessObject none) := by
  rw [classifies_iff, not_not]
  refine ⟨⟨_, .settings (fun file hfile => ?_) rfl ?_ rfl⟩, rfl⟩
  · cases hfile
  · decide

end Client

end NodeProbe
