import NodeProbe.Bus.Event
import NodeProbe.Proofs.Json.Reading
import NodeProbe.Proofs.Text.Base64
import NodeProbe.Proofs.Time.Instant

/-!
# Envelopes read back

The bytes of an event are a JSON object in UTF-8 out of which the call, the time and the result can
be read again (`envelops_encode`), so no two events have the same bytes (`Envelops.unique`). An
event whose time is none has no bytes, and is not put on the bus (`keepsEvents`).
-/

namespace NodeProbe.Event

/-- The bytes are a text in UTF-8, and the text is a JSON object with the name of the call, the time
in the notation of ISO 8601 and the result in Base64, in this order and nothing else. -/
def Envelops (bytes : Bytes) (method : Text) (payload : Bytes) (ms : Int) : Prop :=
  ∃ (document stamp : String) (digits : Text),
    bytes = Text.Utf8.encode document ∧ Text.Utf8.decode bytes = document ∧
      Json.parse? document = some (.object [("method", .string method),
        ("timestamp", .string stamp), ("payload", .string digits)]) ∧
      Text.Base64.decode digits.toString = some payload ∧
      (Time.Instant.ofText? stamp).map (·.ms) = some ms ∧
      ∃ year rest, stamp.toList = year ++ '-' :: rest ∧
        Time.Instant.IsYear (Time.Date.ofDay (ms / Time.dayMs)).year year

theorem isOrdered_envelope (event : Event) (time : Time.Instant) :
    (event.envelope time).IsOrdered := by
  have hkeys : (["method", "timestamp", "payload"] : List Text).Pairwise fun k l =>
      k ≠ l ∧ Json.precedes l k = false := by decide +kernel
  exact ⟨Json.pairwise_mayFollow_iff.mpr hkeys, trivial, trivial, trivial, trivial⟩

/-- The bytes of an event hold all of it. -/
theorem envelops_encode (event : Event) (time : Time.Instant) :
    Envelops (Text.Utf8.encode (event.envelope time).print) event.method event.payload time.ms := by
  have hread := Json.parse?_print (isOrdered_envelope event time)
  refine ⟨(event.envelope time).print, time.text, Text.Base64.encode event.payload, rfl,
    Text.Utf8.decode_encode _, hread, ?_, ?_, ?_⟩
  · rw [Text.toString_ofString]
    exact Text.Base64.decode_encode event.payload
  · rw [Time.Instant.ofText?_text, Option.map_some]
  · obtain ⟨year, rest, hchars, hyear⟩ := time.exists_isYear
    refine ⟨year, rest, ?_, hyear⟩
    rw [Time.Instant.text, String.toList_ofList, hchars]

/-- Nothing else can be read out of the bytes. -/
theorem Envelops.unique {bytes payload payload' : Bytes} {method method' : Text} {ms ms' : Int}
    (h : Envelops bytes method payload ms) (h' : Envelops bytes method' payload' ms') :
    method = method' ∧ payload = payload' ∧ ms = ms' := by
  obtain ⟨document, stamp, digits, -, hdecode, hparse, hpayload, hms, -⟩ := h
  obtain ⟨document', stamp', digits', -, hdecode', hparse', hpayload', hms', -⟩ := h'
  obtain rfl : document = document' := hdecode.symm.trans hdecode'
  have hobject := hparse.symm.trans hparse'
  simp only [Option.some_inj, Json.object.injEq, List.cons.injEq, Prod.mk.injEq, true_and,
    Json.string.injEq, and_true] at hobject
  obtain ⟨hmethod, hstamp, hdigits⟩ := hobject
  refine ⟨hmethod, ?_, ?_⟩
  · rw [← hdigits, hpayload] at hpayload'
    exact Option.some.inj hpayload'
  · have hsame : stamp = stamp' := by
      rw [← Text.toString_ofString stamp, hstamp, Text.toString_ofString]
    rw [← hsame, hms] at hms'
    exact Option.some.inj hms'

/-- What encoding keeps of events, and what becomes of one without a valid time. -/
structure KeepsEvents : Prop where
  /-- Every event whose time is an instant is kept. -/
  kept : ∀ (method : Text) (payload : Bytes) (ms : Int), |ms| ≤ 8640000000000000 →
    ∃ bytes, (Event.mk method payload (Time.Instant.ofMs? ms)).encode = .ok bytes ∧
      Envelops bytes method payload ms
  /-- Different events have different bytes. -/
  injective : ∀ (event event' : Event) (bytes : Bytes), event.encode = .ok bytes →
    event'.encode = .ok bytes → event = event'
  /-- Beyond the instants there is no time. -/
  timeless : ∀ ms : Int, 8640000000000000 < |ms| → Time.Instant.ofMs? ms = none
  /-- An event without a valid time fails to be published, and the bus is left as it is. -/
  refused : ∀ (method : Text) (payload : Bytes) (base : Option Text) (bus : Bus),
    ∃ fault, (Event.mk method payload none).publish base bus = (bus, .ok (some fault))

theorem ofMs?_of_le {ms : Int} (h : |ms| ≤ 8640000000000000) :
    ∃ time : Time.Instant, Time.Instant.ofMs? ms = some time ∧ time.ms = ms := by
  have hvalid : -Time.greatestMs ≤ ms ∧ ms ≤ Time.greatestMs := abs_le.mp h
  exact ⟨⟨ms, hvalid⟩, dif_pos hvalid, rfl⟩

/-- Encoding keeps events. -/
theorem keepsEvents : KeepsEvents where
  kept method payload ms hms := by
    obtain ⟨time, htime, rfl⟩ := ofMs?_of_le hms
    refine ⟨_, ?_, envelops_encode ⟨method, payload, some time⟩ time⟩
    rw [htime]
    rfl
  injective event event' bytes h h' := by
    obtain ⟨method, payload, time⟩ := event
    obtain ⟨method', payload', time'⟩ := event'
    cases time with
    | none => cases h
    | some time =>
      cases time' with
      | none => cases h'
      | some time' =>
        cases h
        have hsame :
            Text.Utf8.encode ((Event.mk method' payload' (some time')).envelope time').print =
              Text.Utf8.encode ((Event.mk method payload (some time)).envelope time).print :=
          Except.ok.inj h'
        have henvelops := envelops_encode ⟨method', payload', some time'⟩ time'
        rw [hsame] at henvelops
        obtain ⟨rfl, rfl, hms⟩ :=
          (envelops_encode ⟨method, payload, some time⟩ time).unique henvelops
        obtain ⟨ms, hvalid⟩ := time
        obtain ⟨ms', hvalid'⟩ := time'
        cases hms
        rfl
  timeless ms hms := by
    have hinvalid : ¬ (-Time.greatestMs ≤ ms ∧ ms ≤ Time.greatestMs) := fun hvalid =>
      absurd hms (not_lt.mpr (abs_le.mpr hvalid))
    exact dif_neg hinvalid
  refused method payload base bus := ⟨_, rfl⟩

end NodeProbe.Event
