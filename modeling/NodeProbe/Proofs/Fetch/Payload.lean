import NodeProbe.Fetch.Race
import NodeProbe.Proofs.Json.Reading
import NodeProbe.Rpc.Client

/-!
# Results are published as they came

A value of the right shape becomes a payload that reads back as the value (`keeps_ofResult`): the
shape is looked at and does not change anything. A call that is answered before its timeout comes to
what its result comes to (`outcome_answer`, `outcome_advance_delayed`), and no course of events
gives a payload to a call whose result has the wrong shape (`Race.Course.of_success`).
-/

namespace NodeProbe

/-! ## Verdicts -/

/-- The bytes are a text in UTF-8 that reads back as the value as written. -/
def Json.IsWrittenAs (v : Json) (payload : Bytes) : Prop :=
  ∃ document : String, payload = Text.Utf8.encode document ∧
    Text.Utf8.decode payload = document ∧ Json.parse? document = some v.asWritten

/-- What a call that came to a value must come to. Every value that was ever read has its fields in
order. -/
def Verdict.Keeps (method : Method) : Option Json → Verdict → Prop
  | some v, verdict =>
    if method.shape.check (some v) = [] then
      ∃ payload, verdict = .success payload ∧ (v.IsOrdered → v.IsWrittenAs payload)
    else verdict.isSuccess = false
  | none, verdict => verdict.isSuccess = false

theorem Json.isWrittenAs_encode {v : Json} (h : v.IsOrdered) :
    v.IsWrittenAs (Text.Utf8.encode v.print) :=
  ⟨v.print, rfl, Text.Utf8.decode_encode _, parse?_print h⟩

namespace Verdict

variable {method : Method} {v : Json}

theorem ofResult_of_check (h : method.shape.check (some v) = []) :
    ofResult method (some v) = .success (Text.Utf8.encode v.print) := by
  unfold ofResult
  simp only [h]

theorem isSuccess_ofResult_of_check (h : method.shape.check (some v) ≠ []) :
    (ofResult method (some v)).isSuccess = false := by
  unfold ofResult
  cases hcheck : method.shape.check (some v) with
  | nil => exact absurd hcheck h
  | cons issue issues => simp only [hcheck]; rfl

/-- A value of the right shape is kept, and nothing else is. -/
theorem keeps_ofResult (method : Method) (v : Option Json) :
    Keeps method v (ofResult method v) := by
  rcases v with - | v
  · rfl
  · by_cases hcheck : method.shape.check (some v) = []
    · rw [Keeps, if_pos hcheck]
      exact ⟨_, ofResult_of_check hcheck, Json.isWrittenAs_encode⟩
    · rw [Keeps, if_neg hcheck]
      exact isSuccess_ofResult_of_check hcheck

/-- A success comes from a value of the right shape, which it is the text of. -/
theorem eq_of_ofResult_eq_success {v : Option Json} {payload : Bytes}
    (h : ofResult method v = .success payload) :
    ∃ w, v = some w ∧ method.shape.check (some w) = [] ∧ payload = Text.Utf8.encode w.print := by
  rcases v with - | w
  · cases h
  · by_cases hcheck : method.shape.check (some w) = []
    · rw [ofResult_of_check hcheck] at h
      cases h
      exact ⟨w, rfl, hcheck, rfl⟩
    · have := isSuccess_ofResult_of_check hcheck
      rw [h] at this
      cases this

end Verdict

/-! ## Races -/

/-- The settlement to which a reply comes, if to any by itself. -/
def Reply.settlement? : Reply → Option Settlement
  | refused fault => some (.error fault)
  | immediate s => some s
  | delayed _ s => some s
  | silent _ => none

/-- The settlement that is still to come. -/
def Awaited.settlement? : Awaited → Option Settlement
  | refused fault => some (.error fault)
  | ready s => some s
  | alarmed _ s => some s
  | silent _ => none

namespace Race

/-- The states that a call can come to: answers are taken and alarms ring, at any times. -/
inductive Course (method : Method) (limit : Float) (reply : Reply) : Race → Prop
  | launched (clock : Time.Clock) : Course method limit reply (launch clock method limit reply).2
  | settled {r : Race} (clock : Time.Clock) :
    Course method limit reply r → Course method limit reply (r.settle clock)
  | rung {r : Race} (alarm : Time.Alarm) (clock : Time.Clock) :
    Course method limit reply r → Course method limit reply (r.ring alarm clock)

/-- The reply comes to a value whose text is the payload. -/
def GivesRise (method : Method) (reply : Reply) (payload : Bytes) : Prop :=
  ∃ v, reply.settlement? = some (.ok v) ∧ Verdict.ofResult method v = .success payload

/-- What is awaited is the reply, and a success is what the reply comes to. -/
structure Honest (method : Method) (reply : Reply) (r : Race) : Prop where
  call : r.method = method
  awaited : ∀ a, r.awaited = some a → ∀ s, a.settlement? = some s → reply.settlement? = some s
  outcome : ∀ o payload, r.outcome = some (.ok o) → o.verdict = .success payload →
    GivesRise method reply payload

section Honest

variable {method : Method} {reply : Reply} {r : Race} {clock : Time.Clock}

theorem Honest.launch (clock : Time.Clock) (method : Method) (limit : Float) (reply : Reply) :
    Honest method reply (launch clock method limit reply).2 := by
  refine ⟨rfl, ?_, ?_⟩
  · intro a ha s hs
    cases reply <;> cases ha <;> exact hs
  · intro o payload ho
    cases ho

theorem outcome_conclude (h : r.outcome = none) (verdict : Except Fault Verdict) :
    (r.conclude clock verdict).outcome =
      some (verdict.map fun v => ⟨r.method, v, Decimal.ofRat (clock.elapsedSince r.started)⟩) := by
  unfold conclude
  rw [h]

theorem conclude_of_outcome {o : Except Fault Outcome} (h : r.outcome = some o)
    (verdict : Except Fault Verdict) : r.conclude clock verdict = { r with timeout := none } := by
  unfold conclude
  rw [h]

theorem conclude_fields (r : Race) (clock : Time.Clock) (verdict : Except Fault Verdict) :
    (r.conclude clock verdict).awaited = r.awaited ∧
      (r.conclude clock verdict).method = r.method := by
  unfold conclude
  split <;> exact ⟨rfl, rfl⟩

theorem Honest.conclude (h : Honest method reply r) {verdict : Except Fault Verdict}
    (hverdict : ∀ payload, verdict = .ok (.success payload) → GivesRise method reply payload) :
    Honest method reply (r.conclude clock verdict) := by
  obtain ⟨hawaited, hmethod⟩ := conclude_fields r clock verdict
  refine ⟨hmethod.trans h.call, hawaited ▸ h.awaited, ?_⟩
  intro o payload ho hpayload
  cases hr : r.outcome with
  | some outcome =>
    rw [conclude_of_outcome hr] at ho
    exact h.outcome o payload ho hpayload
  | none =>
    rw [outcome_conclude hr, Option.some_inj] at ho
    cases verdict with
    | error fault => cases ho
    | ok verdict =>
      cases ho
      exact hverdict payload (congrArg Except.ok hpayload)

theorem Honest.answer (h : Honest method reply r) {s : Settlement}
    (hs : ∀ v, s = .ok v → reply.settlement? = some s) :
    Honest method reply (r.answer clock s) := by
  have hnone : Honest method reply { r with awaited := none } :=
    ⟨h.call, fun a ha => (by cases ha), h.outcome⟩
  refine hnone.conclude fun payload hpayload => ?_
  cases s with
  | error fault =>
    -- A fault has a text or not, but it is no success.
    simp only [Verdict.ofSettlement] at hpayload
    cases hmessage : fault.message with
    | error fault =>
      rw [hmessage] at hpayload
      cases hpayload
    | ok message =>
      rw [hmessage] at hpayload
      cases hpayload
  | ok v =>
    refine ⟨v, hs v rfl, ?_⟩
    rw [← h.call]
    exact Except.ok.inj hpayload

theorem Honest.settle (h : Honest method reply r) : Honest method reply (r.settle clock) := by
  unfold Race.settle
  split
  · exact h.answer fun v hv => (by cases hv)
  · rename_i s hawaited
    exact h.answer fun v _ => h.awaited _ hawaited s rfl
  · exact h

theorem Honest.abort (h : Honest method reply r) : Honest method reply (r.abort clock) := by
  have haborted : Honest method reply { r with aborts := r.aborts ++ [clock.now] } :=
    ⟨h.call, h.awaited, h.outcome⟩
  unfold Race.abort
  simp only
  split
  · exact haborted.answer fun v hv => (by cases hv)
  · exact haborted

theorem Honest.ring (h : Honest method reply r) (alarm : Time.Alarm) :
    Honest method reply (r.ring alarm clock) := by
  unfold Race.ring
  split
  · exact (h.conclude fun payload hpayload => (by cases hpayload)).abort
  · split
    · rename_i own s hawaited
      split
      · exact h.answer fun v _ => h.awaited _ hawaited s rfl
      · exact h
    · exact h

/-- Whatever happens to a call, it is honest. -/
theorem Course.honest {limit : Float} (h : Course method limit reply r) :
    Honest method reply r := by
  induction h with
  | launched clock => exact Honest.launch clock method limit reply
  | settled clock _ ih => exact ih.settle
  | rung alarm clock _ ih => exact ih.ring alarm

end Honest

/-! ## Answers that come in time -/

/-- A call that has no outcome yet and is answered with a value comes to what the value comes to. -/
theorem outcome_answer {r : Race} (h : r.outcome = none) (clock : Time.Clock) (v : Option Json) :
    (r.answer clock (.ok v)).outcome =
      some (.ok ⟨r.method, .ofResult r.method v,
        Decimal.ofRat (clock.elapsedSince r.started)⟩) := by
  have hnone : ({ r with awaited := none } : Race).outcome = none := h
  exact outcome_conclude hnone _

end Race

/-- If nothing is left to ring behind the next alarm, time goes on to its end. -/
theorem Time.Timed.advanceTo_once {World : Type} [Timed World] {w : World} {target due : ℚ}
    {alarm : Alarm} (hnext : next? w target = some (alarm, due))
    (hquiet : alarms (ring (moveTo w (later (now w) due)) alarm) = []) (n : Nat) :
    advanceTo target (n + 2) w = moveTo (ring (moveTo w (later (now w) due)) alarm) target := by
  have hend : next? (ring (moveTo w (later (now w) due)) alarm) target = none := by
    unfold next?
    rw [hquiet]
    rfl
  rw [advanceTo, hnext]
  show advanceTo target (n + 1) (ring (moveTo w (later (now w) due)) alarm) = _
  rw [advanceTo, hend]

namespace Attempt

/-- A value that is there at once is what the call comes to. -/
theorem outcome_start_immediate (clock : Time.Clock) (method : Method) (limit : Float)
    (v : Option Json) :
    ∃ elapsed, (start clock method limit (.immediate (.ok v))).race.outcome =
      some (.ok ⟨method, .ofResult method v, elapsed⟩) :=
  ⟨_, rfl⟩

/-- The alarm of an answer rings while the timeout is armed. -/
theorem ring_own {a : Attempt} {own : Time.Alarm} {v : Option Json}
    (hawaited : a.race.awaited = some (.alarmed own (.ok v)))
    (htimeout : a.race.timeout ≠ some own) (houtcome : a.race.outcome = none) :
    (∃ elapsed, (Time.Timed.ring a own).race.outcome =
      some (.ok ⟨a.race.method, .ofResult a.race.method v, elapsed⟩)) ∧
      Time.Timed.alarms (Time.Timed.ring a own) = [] := by
  have hring : a.race.ring own a.clock = a.race.answer a.clock (.ok v) := by
    unfold Race.ring
    rw [if_neg htimeout, hawaited]
    exact if_pos rfl
  have hfields : (a.race.answer a.clock (.ok v)).awaited = none ∧
      (a.race.answer a.clock (.ok v)).timeout = none := by
    unfold Race.answer Race.conclude
    rw [houtcome]
    exact ⟨rfl, rfl⟩
  have hsettle : (a.race.answer a.clock (.ok v)).settle a.clock =
      a.race.answer a.clock (.ok v) := by
    unfold Race.settle
    rw [hfields.1]
  have hrace : (Time.Timed.ring a own).race = a.race.answer a.clock (.ok v) := by
    show (a.race.ring own a.clock).settle a.clock = _
    rw [hring, hsettle]
  refine ⟨⟨_, hrace ▸ Race.outcome_answer houtcome a.clock v⟩, ?_⟩
  show (Time.Timed.ring a own).race.alarms = []
  rw [hrace, Race.alarms, hfields.1, hfields.2]
  rfl

/-- The first of two alarms is the next one. -/
theorem next?_own {a : Attempt} {timeout own : Time.Alarm} {due target : ℚ}
    (halarms : Time.Timed.alarms a = [timeout, own]) (hown : own.due = some due)
    (hbefore : ∀ t, timeout.due = some t → due < t) (hdue : due ≤ target) :
    Time.Timed.next? a target = some (own, due) := by
  have hfirst : own.before timeout = true := by
    unfold Time.Alarm.before
    rw [hown]
    cases htimeout : timeout.due with
    | none => rfl
    | some t => simp only [hbefore t htimeout, decide_true, Bool.true_or]
  have hearliest : Time.Alarm.earliest (Time.Timed.alarms a) = some own := by
    rw [halarms]
    simp only [Time.Alarm.earliest, hfirst, if_true]
  unfold Time.Timed.next?
  rw [hearliest]
  simp only [hown, if_pos hdue]

/-- The alarm of an answer rings before the timeout, and ends the call. -/
theorem outcome_advance_alarmed {a : Attempt} {timeout own : Time.Alarm} {v : Option Json}
    {due ms : ℚ} (htimeout : a.race.timeout = some timeout)
    (hawaited : a.race.awaited = some (.alarmed own (.ok v))) (houtcome : a.race.outcome = none)
    (hown : own.due = some due) (hbefore : ∀ t, timeout.due = some t → due < t)
    (hdue : due ≤ Time.sum a.clock.now ms) :
    ∃ elapsed, (Time.Timed.advance a ms).race.outcome =
      some (.ok ⟨a.race.method, .ofResult a.race.method v, elapsed⟩) := by
  have halarms : Time.Timed.alarms a = [timeout, own] := by
    show a.race.alarms = _
    rw [Race.alarms, htimeout, hawaited]
    rfl
  have hdistinct : a.race.timeout ≠ some own := by
    rw [htimeout]
    rintro ⟨⟩
    exact lt_irrefl due (hbefore due hown)
  have hnext := next?_own halarms hown hbefore hdue
  -- Moving the clock leaves the race alone, so its alarm rings as in `ring_own`.
  obtain ⟨⟨elapsed, hrung⟩, hquiet⟩ :=
    ring_own (a := Time.Timed.moveTo a (Time.later a.clock.now due)) hawaited hdistinct houtcome
  have hadvance : Time.Timed.advance a ms =
      Time.Timed.moveTo (Time.Timed.ring (Time.Timed.moveTo a (Time.later a.clock.now due)) own)
        (Time.sum a.clock.now ms) := by
    show Time.Timed.advanceTo (Time.sum a.clock.now ms) (Time.Timed.alarms a).length a = _
    rw [halarms]
    exact Time.Timed.advanceTo_once hnext hquiet 0
  refine ⟨elapsed, ?_⟩
  rw [hadvance]
  exact hrung

/-- A value that comes before the timeout is what the call comes to, as soon as it is there. -/
theorem outcome_advance_delayed (clock : Time.Clock) (method : Method) (limit : Float)
    (v : Option Json) {delay ms : ℚ}
    (hbefore : ∀ t, Time.delayOf limit = some t →
      Time.sum clock.now delay < Time.sum clock.now t)
    (hdue : Time.sum clock.now delay ≤ Time.sum clock.now ms) :
    ∃ elapsed, (Time.Timed.advance (start clock method limit (.delayed (some delay) (.ok v)))
      ms).race.outcome = some (.ok ⟨method, .ofResult method v, elapsed⟩) := by
  refine outcome_advance_alarmed (a := start clock method limit (.delayed (some delay) (.ok v)))
    rfl rfl rfl rfl ?_ hdue
  intro t ht
  obtain ⟨t', ht', rfl⟩ := Option.map_eq_some_iff.mp ht
  exact hbefore t' ht'

end Attempt

/-! ## Values from the node -/

theorem Json.isOrdered_field? {v w : Json} {key : Text} (hv : v.IsOrdered)
    (h : v.field? key = some w) : w.IsOrdered := by
  cases v with
  | object fields =>
    obtain ⟨before, behind, rfl, -⟩ := List.lookup_eq_some_iff.mp h
    exact fieldsOrdered_iff.mp hv.2 (key, w) (List.mem_append_right _ List.mem_cons_self)
  | _ => cases h

theorem Envelope.result_of_ofJson? {v : Json} {envelope : Envelope}
    (h : ofJson? v = some envelope) : envelope.result = v.field? "result" := by
  unfold ofJson? at h
  split at h
  · split at h
    · obtain rfl := Option.some.inj h
      rfl
    · cases h
  · cases h

/-- The results in the answers of the node have been read. -/
theorem isOrdered_of_readAnswer {status : Nat} {body : Bytes} {v : Json}
    (h : readAnswer status body = .ok (some v)) : v.IsOrdered := by
  unfold readAnswer at h
  split at h
  · cases h
  · rename_i document hparse
    split at h
    · cases h
    · cases h
    · rename_i henvelope
      have hresult := Envelope.result_of_ofJson? henvelope
      rw [Except.ok.inj h] at hresult
      exact Json.isOrdered_field? (Json.isOrdered_parse? hparse) hresult.symm

/-- The values that the node gives have been read. -/
theorem Exchange.isOrdered_of_read {exchange : Exchange} {host method : Text} {v : Json}
    (h : exchange.read host method = .ok (some v)) : v.IsOrdered := by
  cases exchange with
  | rejected fault cause => cases h
  | broken status detail =>
    unfold read at h
    simp only at h
    split at h <;> cases h
  | answered status body =>
    unfold read at h
    simp only at h
    split at h
    · cases h
    · cases hanswer : readAnswer status body with
      | error failure =>
        rw [hanswer] at h
        cases h
      | ok result =>
        rw [hanswer] at h
        cases h
        exact isOrdered_of_readAnswer hanswer

/-! ## Results -/

/-- What becomes of the values that the node gives for a call. -/
structure KeepsResults (method : Method) : Prop where
  /-- What the node gives has its fields in order. -/
  ordered : ∀ (client : Client) (exchange : Exchange) (v : Json),
    client.settle method.name exchange = .ok (some v) → v.IsOrdered
  /-- A value that is there at once decides about the call. -/
  immediate : ∀ (clock : Time.Clock) (limit : Float) (v : Option Json),
    ∃ outcome, (Attempt.start clock method limit (.immediate (.ok v))).race.outcome =
      some (.ok outcome) ∧ outcome.method = method ∧ outcome.verdict.Keeps method v
  /-- A value that comes before the timeout decides about the call. -/
  delayed : ∀ (clock : Time.Clock) (limit : Float) (v : Option Json) (delay ms : ℚ),
    (∀ t, Time.delayOf limit = some t → Time.sum clock.now delay < Time.sum clock.now t) →
    Time.sum clock.now delay ≤ Time.sum clock.now ms →
    ∃ outcome, (Time.Timed.advance
      (Attempt.start clock method limit (.delayed (some delay) (.ok v))) ms).race.outcome =
        some (.ok outcome) ∧ outcome.method = method ∧ outcome.verdict.Keeps method v
  /-- So it does in every course of events that left the call without an outcome. -/
  answered : ∀ (limit : Float) (reply : Reply) (r : Race) (clock : Time.Clock) (v : Option Json),
    r.Course method limit reply → r.outcome = none →
    ∃ outcome, (r.answer clock (.ok v)).outcome = some (.ok outcome) ∧
      outcome.method = method ∧ outcome.verdict.Keeps method v
  /-- In no course of events is there a payload without a value of the right shape. -/
  founded : ∀ (limit : Float) (reply : Reply) (r : Race) (outcome : Outcome) (payload : Bytes),
    r.Course method limit reply → r.outcome = some (.ok outcome) →
    outcome.verdict = .success payload →
    ∃ v, reply.settlement? = some (.ok (some v)) ∧ method.shape.check (some v) = [] ∧
      payload = Text.Utf8.encode v.print

/-- Results are kept as they came. -/
theorem keepsResults (method : Method) : KeepsResults method where
  ordered client exchange v h := Exchange.isOrdered_of_read h
  immediate clock limit v := by
    obtain ⟨elapsed, h⟩ := Attempt.outcome_start_immediate clock method limit v
    exact ⟨_, h, rfl, Verdict.keeps_ofResult method v⟩
  delayed clock limit v delay ms hbefore hdue := by
    obtain ⟨elapsed, h⟩ := Attempt.outcome_advance_delayed clock method limit v hbefore hdue
    exact ⟨_, h, rfl, Verdict.keeps_ofResult method v⟩
  answered limit reply r clock v hcourse houtcome := by
    obtain rfl := hcourse.honest.call
    exact ⟨_, Race.outcome_answer houtcome clock v, rfl, Verdict.keeps_ofResult r.method v⟩
  founded limit reply r outcome payload hcourse houtcome hpayload := by
    obtain ⟨v, hreply, hresult⟩ := hcourse.honest.outcome outcome payload houtcome hpayload
    obtain ⟨w, rfl, hcheck, hprint⟩ := Verdict.eq_of_ofResult_eq_success hresult
    exact ⟨w, hreply, hcheck, hprint⟩

end NodeProbe
