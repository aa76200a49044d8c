import Mathlib.Data.List.Nodup
import NodeProbe.Bus.Event

/-!
# Publishing

Each call has its own subject (`subjectOf_inj`). An event is either put on the bus as one message on
the subject of its call or not at all, and which of the two happens does not depend on what is on
the bus (`Event.offer_cases`).
-/

namespace NodeProbe

/-! ## Subjects -/

theorem Method.mem_all (m : Method) : m ∈ Method.all := by
  cases m <;> decide

/-- The names of the calls differ in lower case. -/
theorem Method.lower_name_inj {m m' : Method}
    (h : (m.name : Text).lower = (m'.name : Text).lower) : m = m' := by
  have hnodup : (Method.all.map fun m => (m.name : Text).lower).Nodup := by decide +kernel
  exact List.inj_on_of_nodup_map hnodup (mem_all m) (mem_all m') h

theorem Method.name_inj {m m' : Method} (h : (m.name : Text) = m'.name) : m = m' :=
  lower_name_inj (congrArg Text.lower h)

theorem Text.append_right_inj {s t t' : Text} (h : s ++ t = s ++ t') : t = t' := by
  have hunits : s.units ++ t.units = s.units ++ t'.units := congrArg Text.units h
  exact Text.ext (List.append_cancel_left hunits)

/-- Each call has its own subject. -/
theorem subjectOf_inj {base : Option Text} {m m' : Method}
    (h : subjectOf base m.name = subjectOf base m'.name) : m = m' := by
  unfold subjectOf at h
  split at h
  · exact Method.lower_name_inj (Text.append_right_inj h)
  · exact Method.lower_name_inj h

/-! ## What is thrown -/

/-- The fault has a text. -/
def Fault.isReadable (fault : Fault) : Bool :=
  fault.message.isOk

theorem Fault.eq_textless_of_message {fault fault' : Fault}
    (h : fault.message = .error fault') : fault' = .textless := by
  cases fault with
  | value v =>
    simp only [message] at h
    split at h
    · cases h
    · exact (Except.error.inj h).symm
  | _ => cases h

/-- That a fault has no text is said by one that has. -/
theorem Fault.isReadable_of_message_eq_error {fault fault' : Fault}
    (h : fault.message = .error fault') : fault'.isReadable = true := by
  rw [eq_textless_of_message h]
  rfl

theorem Fault.isReadable_eq_false_iff {fault : Fault} :
    fault.isReadable = false ↔ fault.message = .error .textless := by
  unfold isReadable
  cases hmessage : fault.message with
  | ok text => simp [Except.isOk, Except.toBool]
  | error fault' =>
    rw [eq_textless_of_message hmessage]
    simp [Except.isOk, Except.toBool]

theorem Fault.exists_message_or_not_isReadable (fault : Fault) :
    (∃ detail, fault.message = .ok detail) ∨ fault.isReadable = false := by
  cases hmessage : fault.message with
  | ok detail => exact .inl ⟨detail, rfl⟩
  | error without =>
    rw [eq_textless_of_message hmessage] at hmessage
    exact .inr (isReadable_eq_false_iff.mpr hmessage)

/-- An object that has a member `toString` has no text. -/
def Fault.textlessObject : Fault :=
  .value (.object [(Json.ownText, .nat 1)])

/-! ## Events -/

namespace Event

/-- Hands an event to a bus, which takes it or refuses it, unless the publishing itself throws. -/
def offer (event : Event) (base : Option Text) (bus : Bus) (answer : Except Fault (Option Fault)) :
    Bus × Except Fault (Option PublishFault) :=
  match answer with
  | .error fault => (bus, .error fault)
  | .ok refusal => event.publish base (bus.setRefusal refusal)

variable {event : Event} {base : Option Text} {bus : Bus} {answer : Except Fault (Option Fault)}

/-- What is said about an event that was not sent. -/
def failure (event : Event) (base : Option Text) (fault : Fault) :
    Except Fault (Option PublishFault) :=
  fault.message.map fun detail => some (.failed event.method (subjectOf base event.method) detail)

theorem failure_ne_ok_none (fault : Fault) : event.failure base fault ≠ .ok none := by
  unfold failure
  cases fault.message <;> simp [Except.map]

theorem publish_of_send_eq_error {fault : Fault} (h : event.send base bus = .error fault) :
    event.publish base bus = (bus, event.failure base fault) := by
  unfold publish
  rw [h]
  rfl

/-- An event is not sent because its time is no instant or because the bus refuses it. -/
theorem eq_of_send_eq_error {fault : Fault} (h : event.send base bus = .error fault) :
    fault = .invalidTime ∨ bus.refusal (subjectOf base event.method) = some fault := by
  unfold send at h
  cases hencode : event.encode with
  | error fault' =>
    rw [hencode] at h
    cases h
    left
    unfold encode at hencode
    split at hencode
    · cases hencode
    · cases hencode
      rfl
  | ok payload =>
    rw [hencode] at h
    simp only [Bus.send] at h
    split at h
    · cases h
      exact .inr ‹_›
    · cases h

/-- What becomes of an event depends on nothing but what the bus says to its subject. -/
theorem publish_congr {bus' : Bus}
    (hrefusal : bus.refusal (subjectOf base event.method) =
      bus'.refusal (subjectOf base event.method))
    (hdelivered : bus.delivered = bus'.delivered) :
    (event.publish base bus).2 = (event.publish base bus').2 ∧
      (event.publish base bus).1.delivered = (event.publish base bus').1.delivered := by
  unfold publish send
  cases event.encode with
  | error fault => exact ⟨rfl, hdelivered⟩
  | ok payload =>
    simp only [Bus.send, hrefusal, hdelivered]
    cases bus'.refusal (subjectOf base event.method) with
    | none => exact ⟨rfl, rfl⟩
    | some fault => exact ⟨rfl, hdelivered⟩

/-- **An event becomes one message on the subject of its call, or none.** Which of the two, and what
is said about it, does not depend on what is on the bus. -/
theorem offer_cases (event : Event) (base : Option Text) (answer : Except Fault (Option Fault)) :
    (∃ payload, ∀ bus : Bus, (event.offer base bus answer).2 = .ok none ∧
      (event.offer base bus answer).1.delivered =
        ⟨subjectOf base event.method, payload⟩ :: bus.delivered) ∨
      ∃ result, result ≠ .ok none ∧ ∀ bus : Bus, (event.offer base bus answer).2 = result ∧
        (event.offer base bus answer).1.delivered = bus.delivered := by
  cases answer with
  | error fault => exact .inr ⟨.error fault, by simp, fun bus => ⟨rfl, rfl⟩⟩
  | ok refusal =>
    cases hencode : event.encode with
    | error fault =>
      refine .inr ⟨event.failure base fault, failure_ne_ok_none fault, fun bus => ?_⟩
      have hsend : event.send base (bus.setRefusal refusal) = .error fault := by
        rw [send, hencode]
      rw [offer, publish_of_send_eq_error hsend]
      exact ⟨rfl, rfl⟩
    | ok payload =>
      cases refusal with
      | none =>
        refine .inl ⟨payload, fun bus => ?_⟩
        have hsend : event.send base (bus.setRefusal none) =
            .ok { bus.setRefusal none with
              delivered := ⟨subjectOf base event.method, payload⟩ :: bus.delivered } := by
          rw [send, hencode]
          rfl
        rw [offer, publish, hsend]
        exact ⟨rfl, rfl⟩
      | some fault =>
        refine .inr ⟨event.failure base fault, failure_ne_ok_none fault, fun bus => ?_⟩
        have hsend : event.send base (bus.setRefusal (some fault)) = .error fault := by
          rw [send, hencode]
          rfl
        rw [offer, publish_of_send_eq_error hsend]
        exact ⟨rfl, rfl⟩

/-- An event that was published is one more message on its subject. -/
theorem count_offer_of_ok (h : (event.offer base bus answer).2 = .ok none) (subject : Text) :
    (event.offer base bus answer).1.count subject =
      bus.count subject + if subjectOf base event.method = subject then 1 else 0 := by
  obtain ⟨payload, hoffer⟩ | ⟨result, hne, hoffer⟩ := event.offer_cases base answer
  · rw [Bus.count, Bus.count, (hoffer bus).2, List.filter_cons]
    split <;> simp_all
  · exact absurd ((hoffer bus).1.symm.trans h) hne

/-- An event that was not published leaves no message. -/
theorem count_offer_of_ne (h : (event.offer base bus answer).2 ≠ .ok none) (subject : Text) :
    (event.offer base bus answer).1.count subject = bus.count subject := by
  obtain ⟨payload, hoffer⟩ | ⟨result, hne, hoffer⟩ := event.offer_cases base answer
  · exact absurd (hoffer bus).1 h
  · rw [Bus.count, Bus.count, (hoffer bus).2]

/-- On another subject nothing changes. -/
theorem filter_offer_of_ne {subject : Text} (hne : subjectOf base event.method ≠ subject) :
    (event.offer base bus answer).1.delivered.filter (·.subject = subject) =
      bus.delivered.filter (·.subject = subject) := by
  obtain ⟨payload, hoffer⟩ | ⟨result, -, hoffer⟩ := event.offer_cases base answer
  · rw [(hoffer bus).2, List.filter_cons_of_neg (by simpa using hne)]
  · rw [(hoffer bus).2]

/-- What becomes of an event can be told from what is on its subject. -/
theorem filter_offer (event : Event) (base : Option Text)
    (answer : Except Fault (Option Fault)) {bus bus' : Bus}
    (h : bus'.delivered = bus.delivered.filter (·.subject = subjectOf base event.method)) :
    (event.offer base bus answer).1.delivered.filter
        (·.subject = subjectOf base event.method) = (event.offer base bus' answer).1.delivered ∧
      (event.offer base bus answer).2 = (event.offer base bus' answer).2 := by
  obtain ⟨payload, hoffer⟩ | ⟨result, -, hoffer⟩ := event.offer_cases base answer
  · refine ⟨?_, (hoffer bus).1.trans (hoffer bus').1.symm⟩
    rw [(hoffer bus).2, (hoffer bus').2, List.filter_cons_of_pos (by simp), h]
  · refine ⟨?_, (hoffer bus).1.trans (hoffer bus').1.symm⟩
    rw [(hoffer bus).2, (hoffer bus').2, h]

/-- Publishing throws nothing if what the bus throws has a text. -/
theorem exists_offer_eq_ok {refusal : Option Fault}
    (h : ∀ fault, refusal = some fault → ∃ text, fault.message = .ok text) :
    ∃ failure, (event.offer base bus (.ok refusal)).2 = .ok failure := by
  cases hsend : event.send base (bus.setRefusal refusal) with
  | ok after =>
    refine ⟨none, ?_⟩
    rw [offer, publish, hsend]
  | error fault =>
    obtain ⟨text, htext⟩ : ∃ text, fault.message = .ok text := by
      rcases eq_of_send_eq_error hsend with rfl | hrefusal
      · exact ⟨_, rfl⟩
      · exact h fault hrefusal
    refine ⟨some (.failed event.method (subjectOf base event.method) text), ?_⟩
    rw [offer, publish_of_send_eq_error hsend, failure, htext]
    rfl

/-- What the publishing throws has a text, unless it is thrown by the publisher itself. -/
theorem isReadable_of_offer {fault : Fault}
    (hanswer : ∀ fault, answer = .error fault → fault.isReadable = true)
    (h : (event.offer base bus answer).2 = .error fault) : fault.isReadable = true := by
  cases answer with
  | error fault' =>
    cases h
    exact hanswer fault rfl
  | ok refusal =>
    rw [offer] at h
    cases hsend : event.send base (bus.setRefusal refusal) with
    | ok after =>
      rw [publish, hsend] at h
      cases h
    | error fault' =>
      rw [publish_of_send_eq_error hsend, failure] at h
      cases hmessage : fault'.message with
      | ok text =>
        rw [hmessage] at h
        cases h
      | error fault'' =>
        rw [hmessage] at h
        cases h
        exact Fault.isReadable_of_message_eq_error hmessage

end Event

end NodeProbe
