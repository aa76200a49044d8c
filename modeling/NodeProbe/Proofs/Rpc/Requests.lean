import NodeProbe.Proofs.Decimal.Whole
import NodeProbe.Proofs.Json.Reading
import NodeProbe.Proofs.Rpc.Credentials
import NodeProbe.Proofs.Text.Base64
import NodeProbe.Rpc.Client

/-!
# Requests are numbered and carry the credentials of their time

Calls of one client may be under way at the same time, and each of them finds the files as they are
when it reads its credentials (`Session`). A request has the next number and the credentials that
were there for its call (`Session.numbersRequests`); a call that finds none leaves the client as it
is.
-/

namespace NodeProbe

/-! ## One request -/

/-- The request has this number and this method, and it says who makes it. -/
structure Request.Carries (r : Request) (number : Nat) (method secret : Text) : Prop where
  /-- Its body reads as an object with the number and the method. -/
  body : Json.parse? r.body = some (.object [("jsonrpc", .string "1.0"),
    ("id", (Json.nat number).asWritten), ("method", .string method), ("params", .array [])])
  /-- As far as doubles count, the number is the right one. -/
  number : number ≤ 2 ^ 53 → ∃ x, (Json.nat number).asWritten = .number x ∧
    Decimal.rational? x = some (number : ℚ)
  authorization : ∃ code, r.authorization = "Basic " ++ code ∧
    Text.Base64.decode code = some secret.utf8

namespace Client

theorem isOrdered_body (number : Nat) (method : Text) : (body number method).IsOrdered := by
  have hkeys : (["jsonrpc", "id", "method", "params"] : List Text).Pairwise fun k l =>
      k ≠ l ∧ Json.precedes l k = false := by decide
  exact ⟨Json.pairwise_mayFollow_iff.mpr hkeys, trivial, trivial, trivial, trivial, trivial⟩

theorem asWritten_nat {n : Nat} (h : n ≤ 2 ^ 53) :
    ∃ x, (Json.nat n).asWritten = .number x ∧ Decimal.rational? x = some (n : ℚ) := by
  have hvalue := Decimal.rational?_ofInt h
  show ∃ x, Json.numberAsWritten (Decimal.ofInt n) = .number x ∧ _
  unfold Json.numberAsWritten
  rw [hvalue]
  by_cases hzero : (n : ℚ) = 0
  · refine ⟨0, if_pos hzero, ?_⟩
    rw [hzero]
    decide +kernel
  · exact ⟨_, if_neg hzero, hvalue⟩

theorem carries_request (c : Client) (credentials : Credentials) (method : Text)
    (abortable : Bool) :
    (c.request credentials method abortable).Carries (c.sent + 1) method credentials.joined where
  body := Json.parse?_print (isOrdered_body (c.sent + 1) method)
  number := asWritten_nat
  authorization := ⟨_, rfl, Text.Base64.decode_encode _⟩

variable {c : Client} {files : Files}

theorem prepare_of_gives {secret : Text} (h : c.access.Gives files (.ok secret)) (method : Text)
    (abortable : Bool) :
    ∃ request, c.prepare files method abortable = ({ c with sent := c.sent + 1 }, .ok request) ∧
      request.Carries (c.sent + 1) method secret := by
  have hresolve := NodeAccess.gives_iff.mp h
  unfold prepare
  cases hcredentials : Credentials.resolve files c.access with
  | ok credentials =>
    rw [hcredentials] at hresolve
    obtain rfl : credentials.joined = secret := Except.ok.inj hresolve
    exact ⟨_, rfl, c.carries_request credentials method abortable⟩
  | error cause =>
    rw [hcredentials] at hresolve
    cases hresolve

theorem prepare_of_gives_error {cause : AuthCause} (h : c.access.Gives files (.error cause))
    (method : Text) (abortable : Bool) :
    c.prepare files method abortable = (c, .error ⟨method, .auth cause⟩) := by
  have hresolve := NodeAccess.gives_iff.mp h
  unfold prepare
  cases hcredentials : Credentials.resolve files c.access with
  | ok credentials =>
    rw [hcredentials] at hresolve
    cases hresolve
  | error cause' =>
    rw [hcredentials] at hresolve
    cases hresolve
    rfl

end Client

/-! ## Many calls -/

/-- How far a call has come. -/
inductive Session.Stage where
  /-- The credentials of the call are about to be read. -/
  | resolving (method : Text) (abortable : Bool)
  | sent (method : Text)
  | over (settlement : Settlement)

/-- A client, its calls in the order in which they were made, and its requests in the order in which
they were sent. -/
structure Session where
  client : Client
  calls : List Session.Stage
  requests : List Request

namespace Session

/-- What may happen at any time. A call is known by its place in the order of the calls. -/
inductive Act where
  | calls (method : Text) (abortable : Bool)
  /-- A call reads its credentials, and if there are any its request is sent. -/
  | reads (call : Nat) (files : Files)
  | hears (call : Nat) (exchange : Exchange)

/-- One thing happens. Nothing is read or heard for a call that does not wait for it. -/
def step (s : Session) : Act → Session
  | .calls method abortable => { s with calls := s.calls ++ [.resolving method abortable] }
  | .reads call files =>
    match s.calls[call]? with
    | some (.resolving method abortable) =>
      match s.client.prepare files method abortable with
      | (client, .ok request) =>
        ⟨client, s.calls.set call (.sent method), s.requests ++ [request]⟩
      | (client, .error fault) =>
        ⟨client, s.calls.set call (.over (.error (.call fault))), s.requests⟩
    | _ => s
  | .hears call exchange =>
    match s.calls[call]? with
    | some (.sent method) =>
      { s with calls := s.calls.set call (.over (s.client.settle method exchange)) }
    | _ => s

/-- What has become of a new client. -/
def run (access : NodeAccess) (acts : List Act) : Session :=
  acts.foldl step ⟨Client.new access, [], []⟩

variable {access : NodeAccess} {s : Session} {call : Nat} {files : Files} {method : Text}
  {abortable : Bool}

theorem run_concat (acts : List Act) (act : Act) :
    run access (acts ++ [act]) = (run access acts).step act := by
  rw [run, List.foldl_concat]
  rfl

/-- The client knows how many requests it has sent. -/
structure Sound (access : NodeAccess) (s : Session) : Prop where
  access : s.client.access = access
  sent : s.client.sent = s.requests.length

theorem step_reads_of_gives {secret : Text}
    (hcall : s.calls[call]? = some (.resolving method abortable))
    (h : s.client.access.Gives files (.ok secret)) :
    ∃ request, request.Carries (s.client.sent + 1) method secret ∧
      s.step (.reads call files) = ⟨{ s.client with sent := s.client.sent + 1 },
        s.calls.set call (.sent method), s.requests ++ [request]⟩ := by
  obtain ⟨request, hprepare, hcarries⟩ := Client.prepare_of_gives h method abortable
  refine ⟨request, hcarries, ?_⟩
  simp only [step, hcall, hprepare]

theorem step_reads_of_gives_error {cause : AuthCause}
    (hcall : s.calls[call]? = some (.resolving method abortable))
    (h : s.client.access.Gives files (.error cause)) :
    s.step (.reads call files) =
      { s with calls := s.calls.set call (.over (.error (.call ⟨method, .auth cause⟩))) } := by
  simp only [step, hcall, Client.prepare_of_gives_error h]

/-- Nothing is sent, or it is the request of a call that was waiting for its credentials. -/
theorem step_cases (s : Session) (act : Act) :
    (s.step act).client = s.client ∧ (s.step act).requests = s.requests ∨
      ∃ call files method abortable secret request, act = .reads call files ∧
        s.calls[call]? = some (.resolving method abortable) ∧
        s.client.access.Gives files (.ok secret) ∧
        request.Carries (s.client.sent + 1) method secret ∧
        (s.step act).client = { s.client with sent := s.client.sent + 1 } ∧
        (s.step act).requests = s.requests ++ [request] := by
  cases act with
  | calls method abortable => exact .inl ⟨rfl, rfl⟩
  | reads call files =>
    by_cases hwaits : ∃ method abortable, s.calls[call]? = some (.resolving method abortable)
    · obtain ⟨method, abortable, hcall⟩ := hwaits
      rcases s.client.access.gives_error_or_gives files with ⟨cause, hgives⟩ | ⟨secret, hgives⟩
      · rw [step_reads_of_gives_error hcall hgives]
        exact .inl ⟨rfl, rfl⟩
      · obtain ⟨request, hcarries, hstep⟩ := step_reads_of_gives hcall hgives
        rw [hstep]
        exact .inr ⟨call, files, method, abortable, secret, request, rfl, hcall, hgives, hcarries,
          rfl, rfl⟩
    · left
      unfold step
      simp only
      split
      · exact absurd ⟨_, _, ‹_›⟩ hwaits
      · exact ⟨rfl, rfl⟩
  | hears call exchange =>
    left
    unfold step
    simp only
    split <;> exact ⟨rfl, rfl⟩

theorem Sound.step (h : Sound access s) (act : Act) : Sound access (s.step act) := by
  rcases s.step_cases act with ⟨hclient, hrequests⟩ |
      ⟨call, files, method, abortable, secret, request, -, -, -, -, hclient, hrequests⟩
  · constructor
    · rw [hclient, h.access]
    · rw [hclient, hrequests, h.sent]
  · constructor
    · rw [hclient, h.access]
    · rw [hclient, hrequests, List.length_append, h.sent]
      rfl

theorem sound_run (access : NodeAccess) (acts : List Act) : Sound access (run access acts) := by
  induction acts using List.reverseRecOn with
  | nil => exact ⟨rfl, rfl⟩
  | append_singleton acts act ih =>
    rw [run_concat]
    exact ih.step act

/-- A call that nothing comes between is a call of the client. -/
theorem foldl_step_call (s : Session) (files : Files) (method : Text) (abortable : Bool)
    (exchange : Exchange) :
    [Act.calls method abortable, .reads s.calls.length files,
        .hears s.calls.length exchange].foldl step s =
      ⟨(s.client.call files method abortable exchange).1,
        s.calls ++ [.over (s.client.call files method abortable exchange).2.2],
        s.requests ++ (s.client.call files method abortable exchange).2.1.toList⟩ := by
  have hplace (stage : Stage) : (s.calls ++ [stage])[s.calls.length]? = some stage := by simp
  have hset (stage stage' : Stage) :
      (s.calls ++ [stage]).set s.calls.length stage' = s.calls ++ [stage'] := by simp
  simp only [List.foldl_cons, List.foldl_nil, Client.call]
  cases hprepare : s.client.prepare files method abortable with
  | mk client result =>
    cases result with
    | ok request => simp only [step, hplace, hset, hprepare, Option.toList_some]
    | error fault => simp only [step, hplace, hset, hprepare, Option.toList_none, List.append_nil]

/-- How the request in this place came to be sent: a call read its credentials when so many requests
had been sent, and found some. -/
inductive Sent (access : NodeAccess) (acts : List Act) (place : Nat) (request : Request) : Prop
  | intro {before behind : List Act} {call : Nat} {files : Files} {method secret : Text}
      {abortable : Bool} :
    acts = before ++ .reads call files :: behind →
    (run access before).calls[call]? = some (.resolving method abortable) →
    (run access before).requests.length = place →
    access.Gives files (.ok secret) → request.Carries (place + 1) method secret →
    Sent access acts place request

theorem Sent.concat {acts : List Act} {place : Nat} {request : Request}
    (h : Sent access acts place request) (act : Act) :
    Sent access (acts ++ [act]) place request := by
  obtain ⟨rfl, hcall, hplace, hgives, hcarries⟩ := h
  exact .intro (List.append_assoc _ _ _) hcall hplace hgives hcarries

theorem sent_of_getElem? {acts : List Act} {place : Nat} {request : Request}
    (h : (run access acts).requests[place]? = some request) : Sent access acts place request := by
  induction acts using List.reverseRecOn with
  | nil => cases h
  | append_singleton acts act ih =>
    have hsound := sound_run access acts
    rw [run_concat] at h
    rcases (run access acts).step_cases act with ⟨-, hrequests⟩ |
        ⟨call, files, method, abortable, secret, sent, rfl, hcall, hgives, hcarries, -, hrequests⟩
    · rw [hrequests] at h
      exact (ih h).concat act
    · rw [hrequests] at h
      by_cases hearlier : place < (run access acts).requests.length
      · rw [List.getElem?_append_left hearlier] at h
        exact (ih h).concat _
      · -- There is nothing behind the request that has just been sent.
        rw [List.getElem?_append_right (not_lt.mp hearlier), List.getElem?_singleton] at h
        obtain ⟨hlast, hsent⟩ := (Option.ite_none_right_eq_some).mp h
        obtain rfl := Option.some.inj hsent
        have hplace : (run access acts).requests.length = place := by omega
        rw [hsound.access] at hgives
        rw [hsound.sent, hplace] at hcarries
        exact .intro rfl hcall hplace hgives hcarries

/-- What the requests of a client are, whatever happens. -/
structure NumbersRequests (access : NodeAccess) : Prop where
  /-- The requests have the numbers from one on, and each of them has the credentials that were
  there when its call read them. -/
  sent : ∀ acts place request, (run access acts).requests[place]? = some request →
    Sent access acts place request
  /-- A call that finds credentials sends its request. -/
  sends : ∀ acts call files method abortable secret,
    (run access acts).calls[call]? = some (.resolving method abortable) →
    access.Gives files (.ok secret) →
    ∃ request, request.Carries ((run access acts).requests.length + 1) method secret ∧
      (run access (acts ++ [.reads call files])).requests =
        (run access acts).requests ++ [request] ∧
      (run access (acts ++ [.reads call files])).calls =
        (run access acts).calls.set call (.sent method)
  /-- A call that finds none fails, and apart from that everything stays as it is. -/
  refuses : ∀ acts call files method abortable cause,
    (run access acts).calls[call]? = some (.resolving method abortable) →
    access.Gives files (.error cause) →
    run access (acts ++ [.reads call files]) = { run access acts with
      calls := (run access acts).calls.set call (.over (.error (.call ⟨method, .auth cause⟩))) }

/-- **Requests are numbered from one and carry the credentials of their time.** -/
theorem numbersRequests (access : NodeAccess) : NumbersRequests access where
  sent acts place request h := sent_of_getElem? h
  sends acts call files method abortable secret hcall hgives := by
    have hsound := sound_run access acts
    rw [← hsound.access] at hgives
    obtain ⟨request, hcarries, hstep⟩ := step_reads_of_gives hcall hgives
    rw [run_concat, hstep, ← hsound.sent]
    exact ⟨request, hcarries, rfl, rfl⟩
  refuses acts call files method abortable cause hcall hgives := by
    rw [← (sound_run access acts).access] at hgives
    rw [run_concat]
    exact step_reads_of_gives_error hcall hgives

end Session

end NodeProbe
