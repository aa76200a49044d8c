import NodeProbe.Proofs.Course.Cadence
import NodeProbe.Proofs.Probe.Course
import NodeProbe.Proofs.Scheduler.Sleeping

/-!
# The pace of the loop

A probe lives by its clock. What can happen to it is a list of acts, in any order and number: the
clock moves on, alarms that are due ring, sooner or later, and the loop goes on, sooner or later.
Each time the loop ticks and goes on it has gone through a round (`Round`). As long as the times are
whole numbers that doubles count exactly, the deadlines of the rounds are multiples of the interval
after the start, whatever held the loop up (`keepsTime_of`).
-/

namespace NodeProbe

open Scheduler

/-- One round of the loop: it has ticked for a deadline and goes on to the next one. -/
structure Round where
  deadline : Rat
  /-- When it ticked. -/
  time : Rat
  next : Rat
  /-- How many deadlines are dropped. -/
  missed : Int
  /-- What the loop prints when it goes on. -/
  printed : List Effect

/-- What can happen to a probe. -/
inductive Act where
  | tick
  | run
  /-- Everything happens that can happen without time passing. -/
  | settle
  | drain
  | raise (reason : Text)
  /-- An alarm rings, if it is due. -/
  | ring (alarm : Time.Alarm)
  /-- The clock moves on. It does not go back. -/
  | moveTo (time : Int)
  | respond (m : Method) (replies : List Reply)
  | setBus (fault : Option Fault)

namespace Probe

/-- An alarm has rung, and nothing has followed from it yet. -/
def rung (p : Probe) (alarm : Time.Alarm) : Probe :=
  let flights := p.flights.map (·.ring alarm p.clock)
  let aborted := (p.flights.zip flights).filter fun (old, new) => old.abortCount < new.abortCount
  aborted.foldl (fun p (_, flight) => p.note flight.method .aborted)
    { p with
      flights
      scheduler := { p.scheduler with signal := p.scheduler.signal.ring alarm p.clock.now } }

theorem ring_eq (p : Probe) (alarm : Time.Alarm) : p.ring alarm = (p.rung alarm).settle :=
  rfl

/-- The round that the loop goes through if it goes on now. -/
def round? (p : Probe) : Option Round :=
  match p.scheduler.wake.1.loop with
  | .ticked deadline =>
    let (next, missed) := nextDeadline p.scheduler.interval deadline p.clock.now
    some ⟨deadline, p.clock.now, next, missed, (p.scheduler.wake.1.goOn p.clock).2.2⟩
  | _ => none

end Probe

/-- What follows from an act. -/
def Act.on (p : Probe) : Act → Probe
  | tick => p.tick.1
  | run => p.run
  | settle => p.settle
  | drain => p.drain
  | raise reason => p.raise reason
  | ring alarm => if alarm.isDue p.clock.now then p.rung alarm else p
  | moveTo time => if p.clock.now ≤ time then Time.Timed.moveTo p time else p
  | respond m replies => p.respond m replies
  | setBus fault => p.setBus fault

/-- The act neither starts the loop nor lets it go on. -/
def Act.isAside : Act → Bool
  | run | settle => false
  | _ => true

/-- Time does not pass over an alarm that is due or over a sleep that has ended. -/
def Act.IsPrompt (p : Probe) : Act → Prop
  | moveTo time =>
    p.scheduler.isRoused = false ∧
      ∀ alarm ∈ p.alarms, ∀ due, alarm.due = some due → (time : Rat) ≤ due
  | _ => True

/-- A probe, when its loop was started, and the rounds that the loop has gone through, the last one
in front. -/
structure Pace where
  probe : Probe
  started : Option Rat
  rounds : List Round

namespace Pace

/-- What follows from an act. -/
def after (w : Pace) (act : Act) : Pace where
  probe := act.on w.probe
  started := match w.started, act, w.probe.scheduler.loop with
    | none, .run, .unstarted => some w.probe.clock.now
    | started, _, _ => started
  rounds := match act with
    | .settle => w.probe.round?.toList ++ w.rounds
    | _ => w.rounds

/-- What follows from some acts. -/
def run (w : Pace) (acts : List Act) : Pace :=
  acts.foldl after w

/-- The pace of a probe to which this has happened. -/
def of (p : Probe) (acts : List Act) : Pace :=
  run ⟨p, none, []⟩ acts

/-- Nothing holds the loop up: each of the acts is prompt. -/
def IsPrompt (w : Pace) : List Act → Prop
  | [] => True
  | act :: acts => act.IsPrompt w.probe ∧ (w.after act).IsPrompt acts

/-- As far as the start, the clock and the deadline behind it go, doubles count exactly. -/
def InRange (length : Int) (w : Pace) : Prop :=
  ∀ start, w.started = some start →
    -2 ^ 53 ≤ start ∧ w.probe.clock.now + length ≤ 2 ^ 53 ∧
      w.probe.clock.now - start + length ≤ 2 ^ 53

end Pace

/-! ## The clock -/

namespace Scheduler

variable (s : Scheduler) (clock : Time.Clock)

@[simp] theorem now_sleepUntil (deadline : Rat) :
    (s.sleepUntil clock deadline).1.now = clock.now := by
  simp only [sleepUntil, Signal.sleep]
  split <;> rfl

@[simp] theorem now_continueLoop (deadline : Rat) :
    (s.continueLoop clock deadline).1.now = clock.now := by
  unfold continueLoop
  split
  · rfl
  · exact now_sleepUntil s clock deadline

@[simp] theorem now_goOn : (s.goOn clock).1.now = clock.now := by
  unfold goOn
  split
  · exact now_continueLoop s clock _
  · rfl

end Scheduler

theorem Race.now_launch (clock : Time.Clock) (m : Method) (limit : Float) (reply : Reply) :
    (Race.launch clock m limit reply).1.now = clock.now := by
  cases reply <;> rfl

theorem Transport.now_call (t : Transport) (clock : Time.Clock) (m : Method) :
    (t.call clock m).2.1.now = clock.now := by
  cases t with
  | answers limit lines => exact Race.now_launch clock m limit _
  | node limit client files exchange =>
    simp only [call]
    split
    · rename_i client' request _
      exact Race.now_launch clock m limit (client'.reply m exchange)
    · rename_i client' fault _
      exact Race.now_launch clock m limit (.refused (.call fault))
  | outcomes lines =>
    simp only [call]
    split <;> rfl

namespace Probe

variable (p : Probe)

@[simp] theorem now_perform (e : Effect) : (p.perform e).clock.now = p.clock.now := by
  cases e with
  | call m => exact p.transport.now_call _ m
  | record m what =>
    simp only [perform, record]
    split <;> rfl
  | print notice => rfl

@[simp] theorem now_foldl_perform (effects : List Effect) :
    (effects.foldl perform p).clock.now = p.clock.now := by
  induction effects generalizing p with
  | nil => rfl
  | cons e effects ih => rw [List.foldl_cons, ih, now_perform]

/-! ## What leaves the loop alone -/

/-- Neither the clock nor the sleep of the loop is touched. -/
structure SleepsOn (p q : Probe) : Prop where
  now_eq : q.clock.now = p.clock.now
  scheduler : p.scheduler.SleepsOn q.scheduler

namespace SleepsOn

variable {p} {q r : Probe}

theorem refl (p : Probe) : SleepsOn p p :=
  ⟨rfl, .refl _⟩

theorem trans (h : SleepsOn p q) (h' : SleepsOn q r) : SleepsOn p r :=
  ⟨h'.now_eq.trans h.now_eq, h.scheduler.trans h'.scheduler⟩

/-- The scheduler takes a step that lets the loop sleep, and asks for something. -/
theorem performed (h : SleepsOn p q) {s : Scheduler} (hs : q.scheduler.SleepsOn s)
    (effects : List Effect) : SleepsOn p (effects.foldl perform { q with scheduler := s }) := by
  refine ⟨(now_foldl_perform _ effects).trans h.now_eq, ?_⟩
  rw [scheduler_foldl_perform]
  exact h.scheduler.trans hs

theorem publish (p : Probe) (m : Method) (payload : Bytes) : SleepsOn p (p.publish m payload) := by
  unfold Probe.publish
  cases p.publisherFault with
  | some fault =>
    simp only
    exact (refl p).performed (.published p.scheduler m (.error fault)) _
  | none =>
    cases (p.event m payload).publish p.base p.bus with
    | mk bus result =>
      simp only
      split
      · rename_i message _
        exact performed (p := p)
          (q := ({ p with bus, publisherFault := none } : Probe).note (some m) (.published message))
          ⟨rfl, .refl _⟩ (.published p.scheduler m _) _
      · exact performed (p := p) (q := { p with bus, publisherFault := none }) ⟨rfl, .refl _⟩
          (.published p.scheduler m _) _

theorem conclude (p : Probe) (m : Method) (result : Except Fault Outcome) :
    SleepsOn p (p.conclude m result) := by
  have htaken := (refl p).performed (.fetched _ m result) (p.scheduler.fetched m result).2.1
  simp only [Probe.conclude]
  split
  · exact htaken.trans (publish _ m _)
  · exact htaken

theorem concludeAll (p : Probe) : SleepsOn p p.concludeAll := by
  simp only [Probe.concludeAll]
  refine List.foldlRecOn (motive := SleepsOn p) _ _ ⟨rfl, .refl _⟩ fun q hq flight _ => ?_
  split
  · exact hq.trans (conclude q _ _)
  · exact hq

theorem stop (p : Probe) : SleepsOn p p.stop :=
  (refl p).performed (.stop _) _

theorem tick (p : Probe) : SleepsOn p p.tick.1 :=
  (refl p).performed (.tick _) _

end SleepsOn

/-- An alarm rings for the loop and for the calls. -/
theorem rung_eq (p : Probe) (alarm : Time.Alarm) :
    (p.rung alarm).clock = p.clock ∧ (p.rung alarm).scheduler =
      { p.scheduler with signal := p.scheduler.signal.ring alarm p.clock.now } := by
  simp only [rung]
  obtain ⟨journal, haborted, -⟩ := exists_foldl_aborted_eq
    { p with
      flights := p.flights.map (·.ring alarm p.clock)
      scheduler :=
        { p.scheduler with signal := p.scheduler.signal.ring alarm p.clock.now } }
    ((p.flights.zip (p.flights.map (·.ring alarm p.clock))).filter fun (old, new) =>
      old.abortCount < new.abortCount)
  rw [haborted]
  exact ⟨rfl, rfl⟩

theorem now_resume : p.resume.clock.now = p.clock.now := by
  simp only [resume, now_foldl_perform, now_goOn]

theorem now_settle : p.settle.clock.now = p.clock.now := by
  have hrest := (SleepsOn.concludeAll p.resume).trans (.stop _)
  exact hrest.now_eq.trans p.now_resume

theorem now_run : p.run.clock.now = p.clock.now := by
  unfold run
  split
  · rfl
  · rename_i clock s effects hrun
    rw [now_foldl_perform]
    unfold Scheduler.run at hrun
    split at hrun
    · cases hrun
      exact now_continueLoop _ _ _
    · cases hrun

/-- Going on is one step of the scheduler if it does not wake, and two if it does. -/
theorem scheduler_resume : ∃ clock : Time.Clock, clock.now = p.clock.now ∧
    p.resume.scheduler = (p.scheduler.wake.1.goOn clock).2.1 := by
  refine ⟨(p.scheduler.wake.2.foldl perform { p with scheduler := p.scheduler.wake.1 }).clock,
    now_foldl_perform _ _, ?_⟩
  simp only [resume, scheduler_foldl_perform]

end Probe

theorem Act.now_le (p : Probe) (act : Act) : p.clock.now ≤ (act.on p).clock.now := by
  cases act with
  | tick => exact (Probe.SleepsOn.tick p).now_eq.ge
  | run => exact p.now_run.ge
  | settle => exact p.now_settle.ge
  | drain => exact le_rfl
  | raise reason => exact le_rfl
  | ring alarm =>
    simp only [on]
    split
    · exact (congrArg Time.Clock.now (p.rung_eq alarm).1).ge
    · exact le_rfl
  | moveTo time =>
    simp only [on]
    split
    · assumption
    · exact le_rfl
  | respond m replies =>
    simp only [on, Probe.respond]
    split <;> exact le_rfl
  | setBus fault => exact le_rfl

end NodeProbe
