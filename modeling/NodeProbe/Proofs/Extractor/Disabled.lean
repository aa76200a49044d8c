import NodeProbe.Proofs.Bus.Envelope
import NodeProbe.Proofs.Config.Timers
import NodeProbe.Proofs.Course.Cadence
import NodeProbe.Proofs.Extractor.Order

/-!
# What is disabled is silent

A switch in the environment takes a call out of the catalog's enabled ones, and with that out of
everything else: whatever happens to the program, the call is not made, nothing is recorded or
printed about it, and no message on the bus is about it (`silencesDisabled`). This is read off an
invariant of courses: all that a course holds is about enabled calls (`Course.Concerns`). What is
enabled keeps its cadence all the same.
-/

namespace NodeProbe

open Scheduler

/-! ## Messages -/

/-- The message is an event of this call, on its subject. -/
structure Message.Tells (message : Message) (base : Option Text) (m : Method) : Prop where
  subject_eq : message.subject = subjectOf base m.name
  exists_event : ∃ event : Event, event.method = m.name ∧ event.encode = .ok message.payload

namespace Message.Tells

variable {message : Message} {base : Option Text} {m m' : Method}

/-- A message on the subject of a call is about that call. -/
theorem eq_of_subject (h : message.Tells base m)
    (hsubject : message.subject = subjectOf base m'.name) : m = m' :=
  subjectOf_inj (h.subject_eq.symm.trans hsubject)

/-- A message with the name of a call is about that call. -/
theorem eq_of_envelops (h : message.Tells base m) {payload : Bytes} {ms : Int}
    (henvelops : Event.Envelops message.payload m'.name payload ms) : m = m' := by
  obtain ⟨-, ⟨method, own, time⟩, rfl, hencode⟩ := h
  cases time with
  | none => cases hencode
  | some time =>
    have hown := Event.envelops_encode ⟨m.name, own, some time⟩ time
    rw [Except.ok.inj hencode] at hown
    exact Method.lower_name_inj (congrArg Text.lower (hown.unique henvelops).1)

end Message.Tells

/-- An event that is sent is one more message, with its bytes on its subject. -/
theorem Event.exists_of_send_eq_ok {event : Event} {base : Option Text} {bus bus' : Bus}
    (h : event.send base bus = .ok bus') : ∃ payload, event.encode = .ok payload ∧
      bus'.delivered = ⟨subjectOf base event.method, payload⟩ :: bus.delivered := by
  unfold send at h
  cases hencode : event.encode with
  | error fault =>
    rw [hencode] at h
    cases h
  | ok payload =>
    rw [hencode] at h
    simp only [Bus.send] at h
    split at h
    · cases h
    · cases h
      exact ⟨payload, rfl, rfl⟩

/-- What an offer adds to the bus is the event. -/
theorem Event.mem_offer {event : Event} {base : Option Text} {bus : Bus}
    {answer : Except Fault (Option Fault)} {message : Message}
    (h : message ∈ (event.offer base bus answer).1.delivered) :
    message ∈ bus.delivered ∨
      message.subject = subjectOf base event.method ∧ event.encode = .ok message.payload := by
  cases answer with
  | error fault => exact .inl h
  | ok refusal =>
    cases hsend : event.send base (bus.setRefusal refusal) with
    | error fault =>
      rw [offer, publish_of_send_eq_error hsend] at h
      exact .inl h
    | ok after =>
      obtain ⟨payload, hencode, hdelivered⟩ := exists_of_send_eq_ok hsend
      rw [offer, publish, hsend, hdelivered] at h
      rcases List.mem_cons.mp h with rfl | h
      · exact .inr ⟨rfl, hencode⟩
      · exact .inl h

/-! ## Courses -/

namespace Course

/-- Everything in the course is about these calls. -/
structure Concerns (fits : Method → Prop) (c : Course) : Prop where
  slots : ∀ slot ∈ c.scheduler.slots, slot.spec.enabled = true → fits slot.method
  busy : ∀ m ∈ c.busy, fits m
  effects : ∀ episode ∈ c.log, ∀ e ∈ episode.effects, ∀ m, e.about = some m → fits m
  messages : ∀ message ∈ c.bus.delivered, ∃ m, fits m ∧ message.Tells c.base m

namespace Concerns

variable {fits : Method → Prop} {c c' : Course}

/-- A tick asks for nothing but enabled calls. -/
theorem of_turns (h : c.Concerns fits) {e : Effect} (he : e ∈ c.scheduler.turns.effects)
    {m : Method} (habout : e.about = some m) : fits m := by
  obtain ⟨slot, hslot, he⟩ := exists_slot_of_mem_effects he
  obtain rfl : slot.method = m :=
    Option.some.inj ((Slot.about_of_mem_effects he).symm.trans habout)
  cases henabled : slot.spec.enabled with
  | true => exact h.slots slot hslot henabled
  | false =>
    rw [Slot.effects_of_disabled henabled] at he
    cases he

theorem of_fired (h : c.Concerns fits) {m : Method} (hm : m ∈ c.scheduler.turns.fired) :
    fits m := by
  rw [turns, ← tickSlots_callees] at hm
  obtain ⟨e, he, hcallee⟩ := List.mem_filterMap.mp hm
  obtain rfl := Effect.callee?_eq_some_iff.mp hcallee
  exact h.of_turns he rfl

/-- The entries of the catalog stay as they are. -/
theorem slots_step (h : c.Concerns fits) (hstep : Step c c') :
    ∀ slot ∈ c'.scheduler.slots, slot.spec.enabled = true → fits slot.method := by
  intro slot hslot henabled
  have hspec : slot.spec ∈ c'.scheduler.slots.map (·.spec) := List.mem_map.mpr ⟨slot, hslot, rfl⟩
  rw [hstep.specs_eq] at hspec
  obtain ⟨slot', hslot', heq⟩ := List.mem_map.mp hspec
  have hfits := h.slots slot' hslot' (heq ▸ henabled)
  rwa [Slot.method, heq, ← Slot.method] at hfits

/-- What is said about a call that is under way is about a call that fits. -/
theorem of_reports (h : c.Concerns fits) {number : Nat} {x : Extraction}
    (hget : c.extractions[number]? = some x) {effects : List Effect}
    (hreports : ∀ e ∈ effects, e.IsReport x.method) :
    ∀ e ∈ effects, ∀ m, e.about = some m → fits m := by
  intro e he m habout
  obtain rfl : x.method = m := Option.some.inj ((hreports e he).about_eq.symm.trans habout)
  exact h.busy _ (List.mem_map.mpr ⟨x, List.mem_of_getElem? hget, rfl⟩)

theorem step (h : c.Concerns fits) (hnamed : c.Named) (hstep : Step c c') :
    c'.Concerns fits := by
  have hslots := h.slots_step hstep
  have hbase := hstep.base_eq
  suffices hrest : (∀ m ∈ c'.busy, fits m) ∧
      (∀ episode ∈ c'.log, ∀ e ∈ episode.effects, ∀ m, e.about = some m → fits m) ∧
      ∀ message ∈ c'.bus.delivered, ∃ m, fits m ∧ message.Tells c.base m from
    ⟨hslots, hrest.1, hrest.2.1, hbase ▸ hrest.2.2⟩
  cases hstep with
  | quiet hbooks hremarks =>
    refine ⟨h.busy, List.forall_mem_cons.mpr ⟨fun e he m habout => ?_, h.effects⟩, h.messages⟩
    obtain ⟨notice, hnotice, rfl⟩ := hremarks e he
    cases hnotice.symm.trans habout
  | beat hopen hbooks =>
    rw [ticked_of_not_isClosed hopen]
    refine ⟨fun m hm => ?_, List.forall_mem_cons.mpr ⟨fun e he m => h.of_turns he, h.effects⟩,
      h.messages⟩
    rw [Course.busy, List.map_append, List.map_map] at hm
    rcases List.mem_append.mp hm with hm | hm
    · exact h.busy m hm
    · obtain ⟨m', hm', rfl⟩ := List.mem_map.mp hm
      exact h.of_fired hm'
  | @fetched number m result time hget =>
    have heffects := h.of_reports hget (reports_fetched c.scheduler m result)
    cases hpayload : (c.scheduler.fetched m result).2.2 with
    | none =>
      rw [fetched_of_payload_eq_none hpayload]
      refine ⟨fun m' hm' => ?_, List.forall_mem_cons.mpr ⟨heffects, h.effects⟩, h.messages⟩
      exact h.busy m' (((List.eraseIdx_sublist _ _).map _).subset hm')
    | some payload =>
      rw [fetched_of_payload_eq_some hpayload]
      refine ⟨fun m' hm' => ?_, List.forall_mem_cons.mpr ⟨heffects, h.effects⟩, h.messages⟩
      obtain ⟨x, hx, rfl⟩ := List.mem_map.mp hm'
      rcases List.mem_or_eq_of_mem_set hx with hx | rfl
      · exact h.busy _ (List.mem_map.mpr ⟨x, hx, rfl⟩)
      · exact h.busy m (List.mem_map.mpr ⟨_, List.mem_of_getElem? hget, rfl⟩)
  | @published number m event answer hget =>
    have hmem := List.mem_of_getElem? hget
    have heffects := h.of_reports hget
      (reports_published c.scheduler m (event.offer c.base c.bus answer).2)
    refine ⟨fun m' hm' => ?_, List.forall_mem_cons.mpr ⟨heffects, h.effects⟩,
      fun message hmessage => ?_⟩
    · exact h.busy m' (((List.eraseIdx_sublist _ _).map _).subset hm')
    · rcases Event.mem_offer hmessage with hmessage | ⟨hsubject, hencode⟩
      · exact h.messages message hmessage
      · have hname := hnamed m event hmem
        exact ⟨m, h.busy m (List.mem_map.mpr ⟨_, hmem, rfl⟩), hname ▸ hsubject, event, hname,
          hencode⟩

end Concerns

/-- A course is about nothing but the enabled calls of its catalog. -/
theorem concerns_of (catalog : Catalog) (interval : Interval) (broken : List Part)
    (base : Option Text) (moves : List Move) :
    (of catalog interval broken base moves).Concerns (· ∈ catalog.enabled.map (·.method)) := by
  refine (run_induction (P := fun c => c.Named ∧ c.Concerns _) ?_ ⟨?_, ?_⟩ moves).2
  · rintro c c' ⟨hnamed, hconcerns⟩ hstep
    exact ⟨hnamed.step hstep, hconcerns.step hnamed hstep⟩
  · simp [Named, start]
  · refine ⟨?_, List.forall_mem_nil _, List.forall_mem_nil _, List.forall_mem_nil _⟩
    intro slot hslot henabled
    obtain ⟨spec, hspec, rfl⟩ := List.mem_map.mp hslot
    exact List.mem_map.mpr ⟨spec, List.mem_filter.mpr ⟨hspec, henabled⟩, rfl⟩

/-- Nothing is asked, under way or on the bus about a call. -/
structure IsSilent (c : Course) (m : Method) : Prop where
  effects : ∀ episode ∈ c.log, ∀ e ∈ episode.effects, e.about ≠ some m
  busy : m ∉ c.busy
  running : m ∉ c.scheduler.running
  subjects : ∀ message ∈ c.bus.delivered, message.subject ≠ subjectOf c.base m.name
  names : ∀ message ∈ c.bus.delivered, ∀ payload ms,
    ¬ Event.Envelops message.payload m.name payload ms

/-- A call that is not enabled is silent. -/
theorem isSilent_of_notMem {catalog : Catalog} {m : Method}
    (h : m ∉ catalog.enabled.map (·.method)) (interval : Interval) (broken : List Part)
    (base : Option Text) (moves : List Move) :
    (of catalog interval broken base moves).IsSilent m := by
  have hconcerns := concerns_of catalog interval broken base moves
  have hbusy : m ∉ (of catalog interval broken base moves).busy := fun hm =>
    h (hconcerns.busy m hm)
  refine ⟨fun episode hepisode e he habout => h (hconcerns.effects episode hepisode e he m habout),
    hbusy, ?_, fun message hmessage hsubject => ?_, fun message hmessage payload ms henvelops => ?_⟩
  · rw [(sound_of catalog interval broken base moves).running_eq]
    exact hbusy
  · obtain ⟨m', hm', htells⟩ := hconcerns.messages message hmessage
    exact h (htells.eq_of_subject hsubject ▸ hm')
  · obtain ⟨m', hm', htells⟩ := hconcerns.messages message hmessage
    exact h (htells.eq_of_envelops henvelops ▸ hm')

end Course

/-! ## Lifetimes -/

namespace Lifetime

/-- The course of a lifetime is one of the catalog of its settings. -/
structure IsOwn (s : Settings) (l : Lifetime) : Prop where
  settings_eq : l.settings = s
  exists_course : ∀ c, l.phase.course? = some c → ∃ interval moves,
    c = Course.of (.ofDisabled s.disabled) interval [] s.subjectBase moves

namespace IsOwn

variable {s : Settings} {l : Lifetime}

theorem moved (h : l.IsOwn s) (move : Move) : IsOwn s { l with phase := l.phase.moved move } := by
  obtain ⟨settings, phase, deeds⟩ := l
  obtain ⟨hsettings, hcourse⟩ := h
  refine ⟨hsettings, fun c hc => ?_⟩
  rw [course?_moved] at hc
  obtain ⟨c', hc', rfl⟩ := Option.map_eq_some_iff.mp hc
  obtain ⟨interval, moves, rfl⟩ := hcourse c' hc'
  exact ⟨interval, moves ++ [move], (Course.of_concat ..).symm⟩

theorem connected (h : l.IsOwn s) (raised : Option (Text × Rat)) (clock : Time.Clock) :
    IsOwn s (l.connected raised clock) := by
  obtain ⟨settings, phase, deeds⟩ := l
  obtain ⟨rfl, hcourse⟩ := h
  unfold Lifetime.connected
  split
  · exact ⟨rfl, fun c hc => nomatch hc⟩
  · rename_i hnew
    obtain ⟨interval, -, rfl⟩ := new_eq_ok_iff.mp hnew
    refine ⟨rfl, fun c hc => ⟨interval, ?_⟩⟩
    obtain rfl := Option.some.inj hc
    cases raised with
    | none => exact ⟨[.run clock], rfl⟩
    | some raised => exact ⟨[.raise raised.1 raised.2, .run clock], rfl⟩

theorem after (h : l.IsOwn s) (turn : Turn) : IsOwn s (l.after turn) := by
  cases turn with
  | move move =>
    simp only [Lifetime.after]
    split
    · exact h.moved move
    · exact h
  | connect clock =>
    simp only [Lifetime.after]
    split
    · exact h.connected _ clock
    · exact h
  | refuse =>
    simp only [Lifetime.after]
    split
    · exact ⟨h.settings_eq, fun c hc => absurd hc (Option.some_ne_none c).symm⟩
    · exact h
  | leave =>
    simp only [Lifetime.after]
    split
    · rename_i c hphase
      split
      · exact ⟨h.settings_eq, fun c' hc' => h.exists_course c' (by rw [hphase]; exact hc')⟩
      · exact h
    · exact h
  | close fault =>
    simp only [Lifetime.after]
    split
    · rename_i c hphase
      exact ⟨h.settings_eq, fun c' hc' => h.exists_course c' (by rw [hphase]; exact hc')⟩
    · exact h

end IsOwn

theorem isOwn_of (s : Settings) (turns : List Turn) : (of s turns).IsOwn s :=
  List.foldlRecOn (motive := IsOwn s) turns Lifetime.after ⟨rfl, fun _ hc => nomatch hc⟩
    fun _ h turn _ => h.after turn

end Lifetime

/-! ## Extractors -/

theorem Scheduler.Effect.about_of_trace? {e : Effect} {m : Method} {what : Happening}
    (h : e.trace? = some (m, what)) : e.about = some m := by
  cases e with
  | print notice =>
    obtain ⟨m', hm', heq⟩ := Option.map_eq_some_iff.mp h
    cases heq
    exact hm'
  | _ =>
    cases h
    rfl

/-- Nothing in the journal is about a call that is silent. -/
theorem Course.IsSilent.notMem_traces {c : Course} {m : Method} (h : c.IsSilent m)
    (what : Happening) : (m, what) ∉ c.traces := by
  intro hmem
  obtain ⟨episode, hepisode, hmem⟩ := List.mem_flatMap.mp hmem
  obtain ⟨e, he, htrace⟩ := List.mem_filterMap.mp (List.mem_reverse.mp hmem)
  exact h.effects episode hepisode e he (Effect.about_of_trace? htrace)

namespace Extractor

variable {around : Surroundings} {settings : Settings} {first : Nat} {raised : Option Text}
  {e : Extractor}

theorem progress_onProbe_eq_failed {step : Probe → Probe} {r : Remains}
    (h : (e.onProbe step).progress = .failed r) : e.progress = .failed r := by
  obtain ⟨world, own, progress⟩ := e
  cases progress with
  | failed r' => exact h
  | probing p =>
    have hfinish : (finish ⟨world, own, .probing (step p)⟩).progress = .failed r := h
    rw [finish_probing] at hfinish
    dsimp only at hfinish
    split at hfinish <;> cases hfinish
  | finished p => cases h

/-- A program that has failed had failed before. -/
theorem Step.exists_failed {e' : Extractor} (hstep : Step e e') {r : Remains}
    (h : e'.progress = .failed r) : ∃ r', e.progress = .failed r' ∧ r'.journal = r.journal := by
  cases hstep with
  | raise reason => exact ⟨r, progress_onProbe_eq_failed h, rfl⟩
  | setBus fault => exact ⟨r, progress_onProbe_eq_failed h, rfl⟩
  | ring alarm => exact ⟨r, progress_onProbe_eq_failed h, rfl⟩
  | respond inquiry =>
    rw [respond_eq] at h
    obtain ⟨world, own, progress⟩ := e
    cases progress <;> cases h
    exact ⟨_, rfl, rfl⟩
  | moveTo time =>
    rw [moveTo_eq] at h
    obtain ⟨world, own, progress⟩ := e
    cases progress <;> cases h
    exact ⟨_, rfl, rfl⟩

theorem method_of_mem_openingJournal {happened : List Happening} {record : Record}
    (h : record ∈ openingJournal around happened) : record.method = none := by
  obtain ⟨what, -, rfl⟩ := List.mem_map.mp (List.mem_reverse.mp h)
  rfl

/-- A program that has failed has done nothing about any call. -/
theorem Reachable.method_eq_none (h : Reachable around settings first raised e) {r : Remains}
    (hr : e.progress = .failed r) : ∀ record ∈ r.journal, record.method = none := by
  induction h generalizing r with
  | initial =>
    unfold start at hr
    split at hr
    · cases hr
      exact fun record => method_of_mem_openingJournal
    · simp only at hr
      split at hr
      · cases hr
        exact fun record => method_of_mem_openingJournal
      · rw [finish_probing] at hr
        split at hr <;> cases hr
  | step _ hstep ih =>
    obtain ⟨r', hr', hjournal⟩ := hstep.exists_failed hr
    exact hjournal ▸ ih hr'

/-- The probe of an extractor runs a course of the catalog of its settings. -/
theorem Reachable.exists_course (h : Reachable around settings first raised e)
    (hfresh : around.broker.IsFresh) {p : Probe} (hp : e.probe? = some p) :
    ∃ turns c, (Lifetime.of settings turns).phase.course? = some c ∧ p.Follows p.waiting c := by
  cases hserves : around.serves settings with
  | false =>
    obtain ⟨r, hr, -⟩ := h.of_not_serves hserves
    rw [probe?, hr] at hp
    cases hp
  | true =>
    obtain ⟨turns, hprogress, -⟩ := h.exists_lifetime hserves hfresh
    refine ⟨turns, ?_⟩
    unfold probe? at hp
    generalize (Lifetime.of settings turns).phase = phase at hprogress
    generalize e.progress = progress at hprogress hp
    cases hprogress with
    | failed r => cases hp
    | @probing p' c hfollows _ =>
      cases hp
      exact ⟨c, rfl, hfollows⟩
    | @finished p' c hfollows _ =>
      cases hp
      exact ⟨c, rfl, hfollows⟩

/-- No call is made, nothing is recorded or printed, nothing is under way and nothing is on the bus
about a call. -/
structure IsSilent (e : Extractor) (m : Method) : Prop where
  journal : ∀ r ∈ e.journal, r.what.isAsked = true → r.method ≠ some m
  running : ∀ p, e.probe? = some p → m ∉ p.scheduler.running ∧ m ∉ p.waiting
  subjects : ∀ p, e.probe? = some p → ∀ message ∈ p.bus.delivered,
    message.subject ≠ subjectOf p.base m.name
  names : ∀ p, e.probe? = some p → ∀ message ∈ p.bus.delivered, ∀ payload ms,
    ¬ Event.Envelops message.payload m.name payload ms

/-- Where every course is silent about a call, the extractor is. -/
theorem Reachable.isSilent (h : Reachable around settings first raised e)
    (hfresh : around.broker.IsFresh) {m : Method}
    (hcourses : ∀ turns c, (Lifetime.of settings turns).phase.course? = some c → c.IsSilent m) :
    e.IsSilent m := by
  have hprobe (p : Probe) (hp : e.probe? = some p) : ∃ c, c.IsSilent m ∧ p.Follows p.waiting c := by
    obtain ⟨turns, c, hc, hfollows⟩ := h.exists_course hfresh hp
    exact ⟨c, hcourses turns c hc, hfollows⟩
  refine ⟨fun r hr hasked hm => ?_, fun p hp => ?_, fun p hp => ?_, fun p hp => ?_⟩
  · cases hp : e.probe? with
    | none =>
      unfold probe? at hp
      unfold journal at hr
      cases hprogress : e.progress with
      | failed remains =>
        rw [hprogress] at hr
        cases (h.method_eq_none hprogress r hr).symm.trans hm
      | _ =>
        rw [hprogress] at hp
        cases hp
    | some p =>
      obtain ⟨c, hsilent, hfollows⟩ := hprobe p hp
      have hjournal : e.journal = p.journal := by
        unfold probe? at hp
        unfold journal
        split at hp <;> cases hp <;> simp_all
      refine hsilent.notMem_traces r.what ?_
      rw [hfollows.traces_eq]
      refine List.mem_filterMap.mpr ⟨r, hjournal ▸ hr, ?_⟩
      rw [Record.trace?, if_pos hasked, hm]
      rfl
  · obtain ⟨c, hsilent, hfollows⟩ := hprobe p hp
    refine ⟨hfollows.scheduler_eq ▸ hsilent.running, fun hm => hsilent.busy ?_⟩
    have hfetching := hfollows.extractions.symm.subset (List.mem_map_of_mem hm)
    exact List.mem_map.mpr ⟨_, hfetching, rfl⟩
  · obtain ⟨c, hsilent, hfollows⟩ := hprobe p hp
    rw [← hfollows.delivered_eq, ← hfollows.base_eq]
    exact hsilent.subjects
  · obtain ⟨c, hsilent, hfollows⟩ := hprobe p hp
    rw [← hfollows.delivered_eq]
    exact hsilent.names

end Extractor

/-! ## Switches -/

theorem Settings.disabled_of_ofEnvironment {env : Environment} {s : Settings}
    (h : ofEnvironment env = .ok s) : s.disabled = Method.all.filter (isSwitchedOff env) := by
  obtain ⟨-, -, hs⟩ := isReadFrom_of_ofEnvironment h
  rw [hs.disabled]
  refine List.filter_congr fun m _ => ?_
  rw [Bool.eq_iff_iff, isSwitchedOff_iff, decide_eq_true_iff]

theorem Catalog.enabled_ofDisabled (disabled : List Method) :
    (ofDisabled disabled).enabled.map (·.method) = Method.all.filter (· ∉ disabled) := by
  rw [enabled, ofDisabled, List.filter_map, List.map_map]
  refine (List.map_id _).trans (List.filter_congr fun m _ => ?_)
  simp [standardSpec]

/-- What the switches of the environment bring about. -/
structure SilencesDisabled (env : Environment) (s : Settings) : Prop where
  /-- The calls whose switch is on are disabled, in the order of all calls. -/
  disabled_eq : s.disabled = Method.all.filter fun m =>
    env.get? (switchKey m.name) = some "true" ∨ env.get? (switchKey m.name) = some "1"
  /-- The catalog lists all calls in their order, each at its own cadence. -/
  specs_eq : (Catalog.ofDisabled s.disabled).specs.map (fun spec => (spec.method, spec.cadence)) =
    Method.all.map fun m => (m, m.cadence)
  /-- All others are enabled. -/
  enabled_eq : (Catalog.ofDisabled s.disabled).enabled.map (·.method) =
    Method.all.filter (· ∉ s.disabled)
  /-- In every lifetime of the program what is disabled is silent, and what is enabled keeps its
  cadence. -/
  courses : ∀ turns c, (Lifetime.of s turns).phase.course? = some c →
    (∀ m ∈ s.disabled, c.IsSilent m) ∧ c.KeepsCadence (.ofDisabled s.disabled)
  /-- So it is in whatever can come of a program with these settings. -/
  extractors : ∀ around first raised e, Extractor.Reachable around s first raised e →
    around.broker.IsFresh → (∀ m ∈ s.disabled, e.IsSilent m) ∧
      ∀ p, e.probe? = some p → ∃ turns c, (Lifetime.of s turns).phase.course? = some c ∧
        p.Follows p.waiting c

/-- **Silence.** A call whose switch is on is left out of everything, in every run of a program
that starts from an environment: it is not made, not recorded, not printed, not under way and not
on the bus. The others are called at their cadence, whichever they are. -/
theorem silencesDisabled {env : Environment} {s : Settings}
    (hread : Settings.ofEnvironment env = .ok s) : SilencesDisabled env s := by
  have hdisabled := Settings.disabled_of_ofEnvironment hread
  have hnotMem (m : Method) (hm : m ∈ s.disabled) :
      m ∉ (Catalog.ofDisabled s.disabled).enabled.map (·.method) := by
    rw [Catalog.enabled_ofDisabled]
    exact fun h => of_decide_eq_true (List.mem_filter.mp h).2 hm
  have hcourses (turns : List Turn) (c : Course)
      (hc : (Lifetime.of s turns).phase.course? = some c) :
      (∀ m ∈ s.disabled, c.IsSilent m) ∧ c.KeepsCadence (.ofDisabled s.disabled) := by
    obtain ⟨interval, moves, rfl⟩ := (Lifetime.isOwn_of s turns).exists_course c hc
    exact ⟨fun m hm => Course.isSilent_of_notMem (hnotMem m hm) _ _ _ _,
      Course.keepsCadence_of (Course.unbroken_of (.inl List.not_mem_nil))⟩
  refine ⟨?_, ?_, Catalog.enabled_ofDisabled _, hcourses, ?_⟩
  · rw [hdisabled]
    refine List.filter_congr fun m _ => ?_
    rw [Bool.eq_iff_iff, Settings.isSwitchedOff_iff, decide_eq_true_iff]
  · rw [Catalog.ofDisabled, List.map_map]
    rfl
  · intro around first raised e h hfresh
    exact ⟨fun m hm => h.isSilent hfresh fun turns c hc => (hcourses turns c hc).1 m hm,
      fun p hp => h.exists_course hfresh hp⟩

/-- A cookie file, and a call that is not wanted. -/
def Environment.withoutUptime : Environment :=
  ⟨[("RPC_COOKIE_FILE", "c"), ("DISABLE_UPTIME", "1")]⟩

theorem silencesDisabled_withoutUptime : ∃ s, s.disabled = [.uptime] ∧
    Settings.ofEnvironment .withoutUptime = .ok s ∧ SilencesDisabled .withoutUptime s := by
  cases hread : Settings.ofEnvironment .withoutUptime with
  | error fault =>
    have hisOk : (Settings.ofEnvironment .withoutUptime).isOk = true := by decide +kernel
    rw [hread] at hisOk
    cases hisOk
  | ok s =>
    refine ⟨s, ?_, rfl, silencesDisabled hread⟩
    rw [Settings.disabled_of_ofEnvironment hread]
    decide +kernel

end NodeProbe
