import NodeProbe.Proofs.Fetch.Checking
import NodeProbe.Proofs.Fetch.Incidents
import NodeProbe.Proofs.Publishing
import NodeProbe.Proofs.Scheduler.Deadline

/-!
# Who decides about a call

The answer to a call decides if it is there before the timeout rings
(`Attempt.endsAt_course_of_wins`), and otherwise the timeout does
(`Attempt.endsAt_course_of_not_wins`). So a call comes to one outcome and never fails, as long as an
answer in time has a text and doubles tell its time from the timeout (`Attempt.decides_iff`).
-/

namespace NodeProbe

/-! ## Verdicts -/

namespace Verdict

/-- What the answer to a call says about it. -/
inductive Reflects (method : Method) : Settlement → Verdict → Prop
  | accepted {v : Json} :
    method.Accepts v → Reflects method (.ok (some v)) (.success (Text.Utf8.encode v.print))
  | misshapen {v : Option Json} {place : List Text} {problem : Problem} :
    method.shape.FirstFault v place problem →
    Reflects method (.ok v) (.failure .decode
      ("Unexpected result shape at " ++ (Issue.mk place problem).place ++ ": " ++ problem.message))
  | called {fault : CallFault} :
    Reflects method (.error (.call fault)) (.failure fault.kind fault.message)
  | other {fault : Fault} {text : Text} :
    (∀ called, fault ≠ .call called) → fault.message = .ok text →
    Reflects method (.error fault) (.failure .network text)

variable {method : Method} {s : Settlement} {verdict : Verdict}

theorem ofSettlement_of_reflects (h : Reflects method s verdict) :
    ofSettlement method s = .ok verdict := by
  cases h with
  | accepted haccepts =>
    have hcheck := (method.check_eq_nil_iff _).mpr ⟨_, rfl, haccepts⟩
    rw [ofSettlement, ofResult_of_check hcheck]
  | misshapen hfault => rw [ofSettlement, Method.ofResult_of_firstFault hfault]
  | called => rfl
  | @other fault text hother hmessage =>
    have hkind : fault.kind = .network := by
      cases fault with
      | call called => exact absurd rfl (hother called)
      | _ => rfl
    rw [ofSettlement, hmessage, hkind]
    rfl

theorem exists_reflects_of_ok (method : Method) (v : Option Json) :
    ∃ verdict, Reflects method (.ok v) verdict := by
  rcases Shape.exists_firstFault method.shape v with ⟨w, rfl, hfits⟩ | ⟨place, problem, hfault⟩
  · exact ⟨_, .accepted ((method.fits_shape_iff w).mp hfits)⟩
  · exact ⟨_, .misshapen hfault⟩

theorem exists_reflects_of_isReadable (method : Method) {fault : Fault}
    (h : fault.isReadable = true) : ∃ verdict, Reflects method (.error fault) verdict := by
  by_cases hcall : ∃ called, fault = .call called
  · obtain ⟨called, rfl⟩ := hcall
    exact ⟨_, .called⟩
  · rcases fault.exists_message_or_not_isReadable with ⟨_, hmessage⟩ | htextless
    · exact ⟨_, .other (not_exists.mp hcall) hmessage⟩
    · cases h.symm.trans htextless

theorem isReadable_of_reflects {fault : Fault} (h : Reflects method (.error fault) verdict) :
    fault.isReadable = true := by
  have hverdict := ofSettlement_of_reflects h
  by_contra hnot
  rw [ofSettlement, Fault.isReadable_eq_false_iff.mp (Bool.not_eq_true _ ▸ hnot)] at hverdict
  cases hverdict

end Verdict

open Incident (ringsAt? ringsAfter?)

/-! ## Answers and timeouts -/

/-- What the other side does about a call. -/
inductive Conduct where
  /-- It fails before the call is under way. -/
  | refuses (fault : Fault)
  | answers (s : Settlement)
  | answersAfter (ms : Float) (s : Settlement)
  /-- It never answers; when the call is aborted it may fail. -/
  | hangs (onAbort : Option Fault)

namespace Conduct

def reply : Conduct → Reply
  | refuses fault => .refused fault
  | answers s => .immediate s
  | answersAfter ms s => .delayed (Time.delayOf ms) s
  | hangs onAbort => .silent onAbort

/-- What the answer is, if there is one. -/
def settlement? (conduct : Conduct) : Option Settlement :=
  conduct.reply.settlement?

/-- When the answer is there. -/
def answersAt? (now : Rat) (incidents : List Incident) : Conduct → Option Rat
  | refuses _ | answers _ => some now
  | answersAfter ms _ => ringsAfter? (Time.delayOf ms) now incidents
  | hangs _ => none

/-- The answer is there at once, or its delay is shorter than the timeout. -/
def InTime (limit : Float) : Conduct → Prop
  | refuses _ | answers _ => True
  | answersAfter ms _ => ∃ d, Time.delayOf ms = some d ∧ ∀ t, Time.delayOf limit = some t → d < t
  | hangs _ => False

/-- The alarm of the answer rings before the timeout. -/
def Wins (clock : Time.Clock) (limit : Float) : Conduct → Prop
  | refuses _ | answers _ => True
  | answersAfter ms _ => ∃ d, Time.delayOf ms = some d ∧
      ∀ t, Time.delayOf limit = some t → Time.sum clock.now d < Time.sum clock.now t
  | hangs _ => False

theorem inTime_iff {ms limit : Float} {x y : ℚ} (hms : Decimal.rational? ms = some x)
    (hlimit : Decimal.rational? limit = some y) (s : Settlement) :
    (answersAfter ms s).InTime limit ↔ max x 0 < max y 0 := by
  simp [InTime, Time.delayOf_eq_max hms, Time.delayOf_eq_max hlimit]

/-- If the answer is a fault, it has a text. -/
def IsReadable (conduct : Conduct) : Prop :=
  ∀ fault, conduct.settlement? = some (.error fault) → fault.isReadable = true

theorem exists_settlement_of_wins {conduct : Conduct} {clock : Time.Clock} {limit : Float}
    (h : conduct.Wins clock limit) : ∃ s, conduct.settlement? = some s := by
  cases conduct with
  | hangs onAbort => cases h
  | _ => exact ⟨_, rfl⟩

theorem inTime_of_wins {conduct : Conduct} {clock : Time.Clock} {limit : Float}
    (h : conduct.Wins clock limit) : conduct.InTime limit := by
  cases conduct with
  | answersAfter ms s =>
    obtain ⟨d, hd, hbefore⟩ := h
    refine ⟨d, hd, fun t ht => ?_⟩
    by_contra hnot
    have hsum : Time.sum clock.now t ≤ Time.sum clock.now d :=
      Decimal.rounded_mono (by linarith)
    exact absurd (hbefore t ht) (not_lt.mpr hsum)
  | _ => exact h

end Conduct

/-- How long a call took that was made now and came to its outcome then. -/
def Time.Clock.took (clock : Time.Clock) (till : Rat) : Rat :=
  Time.difference (clock.sinceStart till) (clock.sinceStart clock.now)

namespace Attempt

section Course

variable (clock : Time.Clock) (method : Method) (limit : Float)

/-- What becomes of a call. -/
def course (conduct : Conduct) (incidents : List Incident) : Attempt :=
  incidents.foldl meet (start clock method limit conduct.reply)

/-- The outcome of a call that is answered at this time. -/
def answered (s : Settlement) (time : Rat) : Except Fault Outcome :=
  (Verdict.ofSettlement method s).map fun v => ⟨method, v, Decimal.ofRat (clock.took time)⟩

/-- The outcome of a call whose timeout rings at this time. -/
def timedOut (time : Rat) : Except Fault Outcome :=
  .ok ⟨method, .ofTimeout method limit, Decimal.ofRat (clock.took time)⟩

/-- The race of a call whose answer is not there yet. -/
def awaiting (awaited : Awaited) : Race :=
  { method, limit, started := clock.now, timeout := some (clock.arm (Time.delayOf limit)).2,
    awaited := some awaited, outcome := none, aborts := [] }

/-- The alarm of an answer, which is armed behind the timeout. -/
def ownAlarm (ms : Float) : Time.Alarm :=
  ((clock.arm (Time.delayOf limit)).1.arm (Time.delayOf ms)).2

theorem earliest_awaiting (ms : Float) (s : Settlement) :
    Time.Alarm.earliest
        (awaiting clock method limit (.alarmed (ownAlarm clock limit ms) s)).alarms =
      some (if (ownAlarm clock limit ms).before (clock.arm (Time.delayOf limit)).2
        then ownAlarm clock limit ms else (clock.arm (Time.delayOf limit)).2) :=
  rfl

variable {clock method limit}

theorem elapsedSince_now {later : Time.Clock} (h : later.started = clock.started) :
    later.elapsedSince clock.now = clock.took later.now := by
  unfold Time.Clock.elapsedSince Time.Clock.took Time.Clock.sinceStart
  rw [h]

theorem isOver_ring_timeout (awaited : Awaited) {later : Time.Clock}
    (h : later.started = clock.started) :
    (((awaiting clock method limit awaited).ring (clock.arm (Time.delayOf limit)).2 later).settle
      later).IsOver (timedOut clock method limit later.now) [later.now] := by
  have hover := Race.IsOver.of_ring_timeout (r := awaiting clock method limit awaited) rfl rfl rfl
    later
  rw [timedOut, ← elapsedSince_now h]
  exact hover

theorem isOver_ring_own {own : Time.Alarm} {s : Settlement}
    (hne : (clock.arm (Time.delayOf limit)).2 ≠ own) {later : Time.Clock}
    (h : later.started = clock.started) :
    (((awaiting clock method limit (.alarmed own s)).ring own later).settle later).IsOver
      (answered clock method s later.now) [] := by
  have hover := Race.IsOver.of_ring_own (r := awaiting clock method limit (.alarmed own s)) rfl rfl
    (fun heq => hne (Option.some.inj heq)) rfl later
  rw [answered, ← elapsedSince_now h]
  exact hover

/-- An answer that is there at once is taken. -/
theorem isOver_start {conduct : Conduct} {s : Settlement}
    (hconduct : conduct = .answers s ∨ ∃ fault, conduct = .refuses fault ∧ s = .error fault) :
    (start clock method limit conduct.reply).race.IsOver
      (answered clock method s clock.now) [] := by
  have hover (awaited : Awaited) := Race.IsOver.of_answer (r := awaiting clock method limit awaited)
    rfl (clock.arm (Time.delayOf limit)).1 s
  rcases hconduct with rfl | ⟨fault, rfl, rfl⟩
  · exact hover (.ready s)
  · exact hover (.refused fault)

theorem before_ownAlarm_iff (ms : Float) (s : Settlement) :
    (ownAlarm clock limit ms).before (clock.arm (Time.delayOf limit)).2 = true ↔
      (Conduct.answersAfter ms s).Wins clock limit := by
  unfold ownAlarm Time.Clock.arm Time.Alarm.before
  simp only [Conduct.Wins]
  cases Time.delayOf ms with
  | none => cases Time.delayOf limit <;> simp
  | some d => cases Time.delayOf limit <;> simp

theorem bind_due_arm (delay : Option Rat) (clock : Time.Clock) (incidents : List Incident) :
    ((clock.arm delay).2.due.bind fun due => ringsAt? due clock.now incidents) =
      ringsAfter? delay clock.now incidents := by
  cases delay <;> rfl

/-- An answer that wins decides. -/
theorem endsAt_course_of_wins (method : Method) {conduct : Conduct} {s : Settlement}
    (hs : conduct.settlement? = some s) (h : conduct.Wins clock limit) (incidents : List Incident) :
    EndsAt (answered clock method s) (fun _ => []) (conduct.answersAt? clock.now incidents)
      (course clock method limit conduct incidents) := by
  cases conduct with
  | refuses fault =>
    obtain rfl := Option.some.inj hs
    exact .of_isOver (isOver_foldl_meet (isOver_start (.inr ⟨fault, rfl, rfl⟩)) incidents)
  | answers s =>
    obtain rfl := Option.some.inj hs
    exact .of_isOver (isOver_foldl_meet (isOver_start (.inl rfl)) incidents)
  | answersAfter ms s =>
    obtain rfl := Option.some.inj hs
    have hbefore := (before_ownAlarm_iff ms s).mpr h
    have hfirst := earliest_awaiting clock method limit ms s
    rw [if_pos hbefore] at hfirst
    have hne : (clock.arm (Time.delayOf limit)).2 ≠ ownAlarm clock limit ms := by
      intro heq
      have hnumber : clock.armed = clock.armed + 1 := congrArg Time.Alarm.number heq
      omega
    have hwhen : ((ownAlarm clock limit ms).due.bind fun due => ringsAt? due clock.now incidents) =
        ringsAfter? (Time.delayOf ms) clock.now incidents :=
      bind_due_arm (Time.delayOf ms) (clock.arm (Time.delayOf limit)).1 incidents
    rw [Conduct.answersAt?, ← hwhen]
    exact endsAt_foldl_meet (answered clock method s) (fun _ => [])
      ((clock.arm (Time.delayOf limit)).1.arm (Time.delayOf ms)).1 hfirst rfl rfl
      (fun _ hlater => isOver_ring_own hne hlater) incidents
  | hangs onAbort => cases hs

/-- In any other case the timeout does. -/
theorem endsAt_course_of_not_wins (method : Method) {conduct : Conduct}
    (h : ¬ conduct.Wins clock limit) (incidents : List Incident) :
    EndsAt (timedOut clock method limit) (fun time => [time])
      (ringsAfter? (Time.delayOf limit) clock.now incidents)
      (course clock method limit conduct incidents) := by
  rw [← bind_due_arm (Time.delayOf limit) clock incidents]
  cases conduct with
  | refuses fault => exact absurd trivial h
  | answers s => exact absurd trivial h
  | answersAfter ms s =>
    have hfirst := earliest_awaiting clock method limit ms s
    rw [if_neg (mt (before_ownAlarm_iff ms s).mp h)] at hfirst
    exact endsAt_foldl_meet (timedOut clock method limit) (fun time => [time])
      ((clock.arm (Time.delayOf limit)).1.arm (Time.delayOf ms)).1 hfirst rfl rfl
      (fun _ hlater => isOver_ring_timeout _ hlater) incidents
  | hangs onAbort =>
    have hfirst : Time.Alarm.earliest (awaiting clock method limit (.silent onAbort)).alarms =
        some (clock.arm (Time.delayOf limit)).2 := rfl
    exact endsAt_foldl_meet (timedOut clock method limit) (fun time => [time])
      (clock.arm (Time.delayOf limit)).1 hfirst rfl rfl
      (fun _ hlater => isOver_ring_timeout _ hlater) incidents

end Course

/-! ## One outcome -/

section Decides

variable {clock : Time.Clock} {method : Method} {limit : Float} {conduct : Conduct}

/-- A call is decided once and for all, by its answer or by its timeout. -/
structure Decides (clock : Time.Clock) (method : Method) (limit : Float) (conduct : Conduct) :
    Prop where
  /-- The call never fails. -/
  resolves : ∀ incidents fault,
    (course clock method limit conduct incidents).race.outcome ≠ some (.error fault)
  /-- An answer in time decides as soon as it is there, and the call is not aborted. -/
  inTime : ∀ s, conduct.settlement? = some s → conduct.InTime limit →
    ∃ verdict, Verdict.Reflects method s verdict ∧ ∀ incidents,
      (course clock method limit conduct incidents).race.outcome =
        (conduct.answersAt? clock.now incidents).map
          (fun time => .ok ⟨method, verdict, Decimal.ofRat (clock.took time)⟩) ∧
      (course clock method limit conduct incidents).race.aborts = []
  /-- In any other case the timeout decides, and the call is aborted once. -/
  late : ¬ conduct.InTime limit → ∀ incidents,
    (course clock method limit conduct incidents).race.outcome =
      (ringsAfter? (Time.delayOf limit) clock.now incidents).map
        (fun time => .ok ⟨method,
          .failure .timeout ("RPC call " ++ method.name ++ " timed out after " ++
            Decimal.text limit ++ "ms"),
          Decimal.ofRat (clock.took time)⟩) ∧
    (course clock method limit conduct incidents).race.aborts =
      (ringsAfter? (Time.delayOf limit) clock.now incidents).toList
  /-- With the outcome the timeout is disarmed. -/
  disarmed : ∀ incidents, (course clock method limit conduct incidents).race.outcome.isSome →
    (course clock method limit conduct incidents).race.timeout = none
  /-- Nothing that happens later changes the outcome or aborts the call again. -/
  final : ∀ incidents later, (course clock method limit conduct incidents).race.outcome.isSome →
    (course clock method limit conduct (incidents ++ later)).race.outcome =
      (course clock method limit conduct incidents).race.outcome ∧
    (course clock method limit conduct (incidents ++ later)).race.aborts =
      (course clock method limit conduct incidents).race.aborts
  /-- If the timeout is finite, there is an outcome as soon as time has gone on for long enough. -/
  ends : ∀ t, Time.delayOf limit = some t → ∀ incidents, ∃ ms, 0 ≤ ms ∧
    (course clock method limit conduct (incidents ++ [.advance ms])).race.outcome.isSome
  /-- What the call took is what the clock says, exactly where doubles count it. -/
  elapsed : ∀ start since till : Int, clock.started = start → clock.now = since → start ≤ since →
    since ≤ till → till - start ≤ 2 ^ 53 →
    Decimal.rational? (Decimal.ofRat (clock.took till)) = some ((till - since : Int) : ℚ)

theorem rational?_took {start since till : Int} (hstarted : clock.started = start)
    (hnow : clock.now = since) (hsince : start ≤ since) (htill : since ≤ till)
    (hlimit : till - start ≤ 2 ^ 53) :
    Decimal.rational? (Decimal.ofRat (clock.took till)) = some ((till - since : Int) : ℚ) := by
  have htook : clock.took till = ((till - since : Int) : ℚ) := by
    unfold Time.Clock.took Time.Clock.sinceStart
    rw [hstarted, hnow, Time.difference_intCast (abs_le.mpr (by omega)),
      Time.difference_intCast (abs_le.mpr (by omega)), Time.difference_intCast
        (abs_le.mpr (by omega))]
    congr 1
    omega
  obtain ⟨n, hn⟩ := Int.eq_ofNat_of_zero_le (show 0 ≤ till - since by omega)
  have hcount : ((till - since : Int) : ℚ) = n := by rw [hn, Int.cast_natCast]
  have hsmall : n ≤ 2 ^ 53 := by omega
  rw [htook, hcount, ← Decimal.ofInt_natCast]
  exact Decimal.rational?_ofInt hsmall

theorem exists_ringsAt? {due : Rat} (hdue : Decimal.rounded due = due) (incidents : List Incident)
    (now : Rat) : ∃ ms, 0 ≤ ms ∧ (ringsAt? due now (incidents ++ [.advance ms])).isSome := by
  induction incidents generalizing now with
  | nil =>
    refine ⟨max (due - now) 0, le_max_right _ _, ?_⟩
    have hreached : due ≤ Time.sum now (max (due - now) 0) := by
      have hle : due ≤ now + max (due - now) 0 := by linarith [le_max_left (due - now) 0]
      calc due = Decimal.rounded due := hdue.symm
        _ ≤ Decimal.rounded (now + max (due - now) 0) := Decimal.rounded_mono hle
    rw [List.nil_append, ringsAt?, if_pos hreached]
    rfl
  | cons incident rest ih =>
    cases incident with
    | advance ms =>
      by_cases hreached : due ≤ Time.sum now ms
      · refine ⟨0, le_refl 0, ?_⟩
        rw [List.cons_append, ringsAt?, if_pos hreached]
        rfl
      · obtain ⟨ms', hms', hrings⟩ := ih (Time.sum now ms)
        refine ⟨ms', hms', ?_⟩
        rw [List.cons_append, ringsAt?, if_neg hreached]
        exact hrings
    | stall ms => exact ih (Time.sum now ms)
    | reacts s => exact ih now

theorem exists_ringsAfter? (d now : Rat) (incidents : List Incident) :
    ∃ ms, 0 ≤ ms ∧ (ringsAfter? (some d) now (incidents ++ [.advance ms])).isSome :=
  exists_ringsAt? (Decimal.rounded_rounded (now + d)) incidents now

theorem EndsAt.isSome_outcome {outcome : Rat → Except Fault Outcome} {aborts : Rat → List Rat}
    {time : Option Rat} {a : Attempt} (h : EndsAt outcome aborts time a) :
    a.race.outcome.isSome = time.isSome := by
  rw [h.outcome, Option.isSome_map]

theorem disarmed (incidents : List Incident)
    (h : (course clock method limit conduct incidents).race.outcome.isSome) :
    (course clock method limit conduct incidents).race.timeout = none := by
  by_cases hwins : conduct.Wins clock limit
  · obtain ⟨s, hs⟩ := Conduct.exists_settlement_of_wins hwins
    have hends := endsAt_course_of_wins method hs hwins incidents
    exact hends.timeout (hends.isSome_outcome ▸ h)
  · have hends := endsAt_course_of_not_wins method hwins incidents
    exact hends.timeout (hends.isSome_outcome ▸ h)

theorem final (incidents later : List Incident)
    (h : (course clock method limit conduct incidents).race.outcome.isSome) :
    (course clock method limit conduct (incidents ++ later)).race.outcome =
        (course clock method limit conduct incidents).race.outcome ∧
      (course clock method limit conduct (incidents ++ later)).race.aborts =
        (course clock method limit conduct incidents).race.aborts := by
  obtain ⟨outcome, houtcome⟩ := Option.isSome_iff_exists.mp h
  have hover : (course clock method limit conduct incidents).race.IsOver outcome _ :=
    ⟨houtcome, disarmed incidents h, rfl⟩
  have hlater := isOver_foldl_meet hover later
  have hcourse : course clock method limit conduct (incidents ++ later) =
      later.foldl meet (course clock method limit conduct incidents) := List.foldl_append
  rw [hcourse, houtcome]
  exact ⟨hlater.outcome, hlater.aborts⟩

theorem ends {t : Rat} (ht : Time.delayOf limit = some t) (incidents : List Incident) :
    ∃ ms, 0 ≤ ms ∧
      (course clock method limit conduct (incidents ++ [.advance ms])).race.outcome.isSome := by
  by_cases hwins : conduct.Wins clock limit
  · obtain ⟨s, hs⟩ := Conduct.exists_settlement_of_wins hwins
    have hends := endsAt_course_of_wins method hs hwins
    cases conduct with
    | answersAfter ms s =>
      obtain ⟨d, hd, -⟩ := hwins
      obtain ⟨ms', hms', hrings⟩ := exists_ringsAfter? d clock.now incidents
      refine ⟨ms', hms', ?_⟩
      rw [(hends _).isSome_outcome, Conduct.answersAt?, hd]
      exact hrings
    | hangs onAbort => cases hs
    | _ =>
      refine ⟨0, le_refl 0, ?_⟩
      rw [(hends _).isSome_outcome]
      rfl
  · obtain ⟨ms, hms, hrings⟩ := exists_ringsAfter? t clock.now incidents
    refine ⟨ms, hms, ?_⟩
    rw [(endsAt_course_of_not_wins method hwins _).isSome_outcome, ht]
    exact hrings

theorem exists_reflects (method : Method) (hreadable : conduct.IsReadable) {s : Settlement}
    (hs : conduct.settlement? = some s) : ∃ verdict, Verdict.Reflects method s verdict := by
  cases s with
  | ok v => exact Verdict.exists_reflects_of_ok method v
  | error fault => exact Verdict.exists_reflects_of_isReadable method (hreadable fault hs)

theorem decides_of_wins (hwins : conduct.Wins clock limit) (hreadable : conduct.IsReadable) :
    Decides clock method limit conduct := by
  obtain ⟨s, hs⟩ := Conduct.exists_settlement_of_wins hwins
  obtain ⟨verdict, hverdict⟩ := exists_reflects method hreadable hs
  have hanswered : answered clock method s =
      fun time => .ok ⟨method, verdict, Decimal.ofRat (clock.took time)⟩ := by
    funext time
    rw [answered, Verdict.ofSettlement_of_reflects hverdict]
    rfl
  have hends := endsAt_course_of_wins method hs hwins
  rw [hanswered] at hends
  refine ⟨?_, ?_, fun hlate => absurd (Conduct.inTime_of_wins hwins) hlate, disarmed, final,
    fun t ht => ends ht, fun start since till => rational?_took⟩
  · intro incidents fault hfault
    rw [(hends incidents).outcome] at hfault
    obtain ⟨time, -, hnot⟩ := Option.map_eq_some_iff.mp hfault
    cases hnot
  · intro s' hs' _
    obtain rfl := Option.some.inj (hs.symm.trans hs')
    refine ⟨verdict, hverdict, fun incidents => ⟨(hends incidents).outcome, ?_⟩⟩
    rw [(hends incidents).aborts]
    cases conduct.answersAt? clock.now incidents <;> rfl

theorem decides_of_late (hlate : ¬ conduct.InTime limit) : Decides clock method limit conduct := by
  have hlost : ¬ conduct.Wins clock limit := mt Conduct.inTime_of_wins hlate
  have hends := endsAt_course_of_not_wins method hlost
  refine ⟨?_, fun s _ hin => absurd hin hlate, ?_, disarmed, final, fun t ht => ends ht,
    fun start since till => rational?_took⟩
  · intro incidents fault hfault
    rw [(hends incidents).outcome] at hfault
    obtain ⟨time, -, hnot⟩ := Option.map_eq_some_iff.mp hfault
    cases hnot
  · intro _ incidents
    refine ⟨(hends incidents).outcome, ?_⟩
    rw [(hends incidents).aborts]
    cases ringsAfter? (Time.delayOf limit) clock.now incidents <;> rfl

/-- An answer in time loses only if doubles do not tell its time from the timeout. -/
theorem exists_timeout_of_not_wins (hin : conduct.InTime limit)
    (hlost : ¬ conduct.Wins clock limit) :
    (∃ s, conduct.settlement? = some s) ∧ ∃ t, Time.delayOf limit = some t := by
  cases conduct with
  | answersAfter ms s =>
    refine ⟨⟨s, rfl⟩, ?_⟩
    obtain ⟨d, hd, hbefore⟩ := hin
    by_contra hnever
    exact hlost ⟨d, hd, fun t ht => absurd ⟨t, ht⟩ hnever⟩
  | refuses fault => exact absurd trivial hlost
  | answers s => exact absurd trivial hlost
  | hangs onAbort => exact absurd hin id

theorem Decides.wins (h : Decides clock method limit conduct) (hin : conduct.InTime limit) :
    conduct.Wins clock limit := by
  by_contra hlost
  obtain ⟨⟨s, hs⟩, t, ht⟩ := exists_timeout_of_not_wins hin hlost
  obtain ⟨verdict, -, hanswer⟩ := h.inTime s hs hin
  -- When the timeout is due, the call is aborted.
  have hends := endsAt_course_of_not_wins method hlost [.advance t]
  have haborts := hends.aborts
  rw [(hanswer _).2, ht, ringsAfter?, Option.bind_some, ringsAt?, if_pos le_rfl] at haborts
  cases haborts

theorem Decides.isReadable (h : Decides clock method limit conduct) (hin : conduct.InTime limit) :
    conduct.IsReadable := by
  intro fault hfault
  obtain ⟨verdict, hverdict, -⟩ := h.inTime _ hfault hin
  exact Verdict.isReadable_of_reflects hverdict

variable (clock method limit conduct)

/-- **A call comes to one outcome and never fails, unless an answer in time has no text or doubles
do not tell it from the timeout.** -/
theorem decides_iff :
    Decides clock method limit conduct ↔
      (conduct.InTime limit → conduct.Wins clock limit ∧ conduct.IsReadable) := by
  constructor
  · intro h hin
    exact ⟨h.wins hin, h.isReadable hin⟩
  · intro h
    by_cases hin : conduct.InTime limit
    · exact decides_of_wins (h hin).1 (h hin).2
    · exact decides_of_late hin

/-- A call that fails at once with an object that has a member `toString` comes to no outcome. -/
theorem not_decides_textlessObject :
    ¬ Decides (.startedAt 0) .uptime 5000 (.answers (.error .textlessObject)) := by
  rw [decides_iff]
  intro h
  have hreadable := (h trivial).2 _ rfl
  cases hreadable

end Decides

end Attempt

end NodeProbe
