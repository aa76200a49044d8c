import NodeProbe.Proofs.Scheduler.Tick

/-!
# What the steps of a scheduler leave alone

The books of a scheduler are what its ticks and calls live by: the broken parts of the recorder, the
slots, the calls under way and the number of ticks. Its loop, its waits and its signal leave the
books alone; a tick changes all of them but the first, and the end of a call changes the calls under
way. What the steps ask of the world besides calls and recordings is to print lines.
-/

namespace NodeProbe

namespace Signal

@[simp] theorem isRaised_forget (s : Signal) : s.forget.isRaised = s.isRaised := by
  unfold forget
  split <;> rfl

@[simp] theorem isRaised_sleep (s : Signal) (clock : Time.Clock) (delay : Option Rat) :
    (s.sleep clock delay).2.isRaised = s.isRaised := by
  unfold sleep
  split <;> rfl

@[simp] theorem isRaised_ring (s : Signal) (alarm : Time.Alarm) (time : Rat) :
    (s.ring alarm time).isRaised = s.isRaised := by
  unfold ring
  split <;> rfl

@[simp] theorem isRaised_raise (s : Signal) (reason : Text) (time : Rat) :
    (s.raise reason time).isRaised = true := by
  unfold raise
  split
  · assumption
  · rfl

end Signal

namespace Scheduler

/-- A scheduler that has done nothing. -/
def fresh (catalog : Catalog) (interval : Interval) (broken : List Part) : Scheduler :=
  { interval, broken
    slots := catalog.specs.map Slot.new
    inFlight := []
    ticks := 0
    loop := .unstarted
    drains := []
    signal := .initial }

theorem new_eq_ok_iff {catalog : Catalog} {ms : Float} {broken : List Part} {s : Scheduler} :
    new catalog ms broken = .ok s ↔
      ∃ interval, Interval.of? ms = some interval ∧ s = fresh catalog interval broken := by
  unfold new
  cases Interval.of? ms with
  | none => simp
  | some interval => simp [fresh, eq_comm]

theorem fault_of_new_eq_error {catalog : Catalog} {ms : Float} {broken : List Part} {fault : Fault}
    (h : new catalog ms broken = .error fault) : fault = .interval ms := by
  unfold new at h
  split at h <;> cases h
  rfl

/-- What ticks and calls live by. -/
structure Books where
  broken : List Part
  slots : List Slot
  inFlight : List (Method × Stage)
  ticks : Nat

/-- The books of a scheduler. -/
def books (s : Scheduler) : Books :=
  ⟨s.broken, s.slots, s.inFlight, s.ticks⟩

/-- A tick would change nothing any more. -/
def isClosed (s : Scheduler) : Bool :=
  s.signal.isRaised || s.isStopped

/-- The sleep of the loop is over because its time has passed. -/
def isRoused (s : Scheduler) : Bool :=
  match s.loop with
  | .asleep sleep _ =>
    match s.signal.sleeps[sleep]? with
    | some (.ended true _) => true
    | _ => false
  | _ => false

/-- Only lines that are about no call are printed. -/
def Effect.IsRemark (e : Effect) : Prop :=
  ∃ notice : Notice, notice.about = none ∧ e = .print notice

theorem callees_of_remarks {es : List Effect} (h : ∀ e ∈ es, e.IsRemark) :
    es.filterMap Effect.callee? = [] := by
  refine List.filterMap_eq_nil_iff.mpr fun e he => ?_
  obtain ⟨notice, -, rfl⟩ := h e he
  rfl

variable (s : Scheduler)

/-! ## The loop and the waits -/

@[simp] theorem books_drain : s.drain.books = s.books := rfl

@[simp] theorem books_windDown : s.windDown.1.books = s.books := rfl

@[simp] theorem signal_windDown : s.windDown.1.signal = s.signal := rfl

theorem remarks_windDown : ∀ e ∈ s.windDown.2, e.IsRemark := by
  intro e he
  unfold windDown at he
  split at he
  · simp at he
  · rw [List.mem_singleton] at he
    exact ⟨_, rfl, he⟩

@[simp] theorem books_sleepUntil (clock : Time.Clock) (deadline : Rat) :
    (s.sleepUntil clock deadline).2.books = s.books := rfl

@[simp] theorem isRaised_sleepUntil (clock : Time.Clock) (deadline : Rat) :
    (s.sleepUntil clock deadline).2.signal.isRaised = s.signal.isRaised := by
  simp [sleepUntil]

@[simp] theorem books_continueLoop (clock : Time.Clock) (deadline : Rat) :
    (s.continueLoop clock deadline).2.1.books = s.books := by
  unfold continueLoop
  split <;> simp

@[simp] theorem isRaised_continueLoop (clock : Time.Clock) (deadline : Rat) :
    (s.continueLoop clock deadline).2.1.signal.isRaised = s.signal.isRaised := by
  unfold continueLoop
  split <;> simp

theorem remarks_continueLoop (clock : Time.Clock) (deadline : Rat) :
    ∀ e ∈ (s.continueLoop clock deadline).2.2, e.IsRemark := by
  unfold continueLoop
  split
  · exact remarks_windDown s
  · simp

@[simp] theorem books_goOn (clock : Time.Clock) : (s.goOn clock).2.1.books = s.books := by
  unfold goOn
  split <;> simp

@[simp] theorem isRaised_goOn (clock : Time.Clock) :
    (s.goOn clock).2.1.signal.isRaised = s.signal.isRaised := by
  unfold goOn
  split <;> simp

theorem remarks_goOn (clock : Time.Clock) : ∀ e ∈ (s.goOn clock).2.2, e.IsRemark := by
  intro e he
  unfold goOn at he
  split at he
  · rcases List.mem_append.mp he with he | he
    · unfold lagWarning at he
      split at he
      · rw [List.mem_singleton] at he
        exact ⟨_, rfl, he⟩
      · simp at he
    · exact remarks_continueLoop s _ _ e he
  · simp at he

theorem remarks_banner : ∀ e ∈ s.banner, e.IsRemark := by
  intro e he
  unfold banner at he
  rcases List.mem_cons.mp he with rfl | he
  · exact ⟨_, rfl, rfl⟩
  · obtain ⟨spec, -, rfl⟩ := List.mem_map.mp he
    exact ⟨_, rfl, rfl⟩

/-- What starting the loop does, if it can be started. -/
theorem run_eq_ok {clock clock' : Time.Clock} {s s' : Scheduler} {effects : List Effect}
    (h : s.run clock = .ok (clock', s', effects)) :
    s.loop = .unstarted ∧
      s' = (s.continueLoop clock (Time.sum clock.now s.interval.length)).2.1 ∧
      ∀ e ∈ effects, e.IsRemark := by
  unfold run at h
  split at h
  · cases h
    refine ⟨‹_›, rfl, fun e he => ?_⟩
    rcases List.mem_append.mp he with he | he
    · exact remarks_banner s e he
    · exact remarks_continueLoop s _ _ e he
  · cases h

@[simp] theorem books_stop : s.stop.1.books = s.books := by
  simp only [stop]
  split
  · split <;> rfl
  · rfl

@[simp] theorem signal_stop : s.stop.1.signal = s.signal := by
  simp only [stop]
  split
  · split <;> rfl
  · rfl

theorem remarks_stop : ∀ e ∈ s.stop.2, e.IsRemark := by
  intro e he
  simp only [stop] at he
  split at he
  · split at he
    · rw [List.mem_singleton] at he
      exact ⟨_, rfl, he⟩
    · simp at he
    · simp at he
  · simp at he

/-! ## Ticks -/

theorem tick_of_isClosed {s : Scheduler} (h : s.isClosed = true) : s.tick = (s, [], .ok []) := by
  unfold tick
  exact if_pos h

/-- What the slots do at the next tick. -/
def turns (s : Scheduler) : TickResult :=
  tickSlots (s.broken.contains .skip) s.running s.slots

/-- What a tick answers, or throws. -/
def TickResult.answer (r : TickResult) : Except Fault (List Method) :=
  match r.fault with
  | some fault => .error fault
  | none => .ok r.fired

/-- What a tick does as long as neither the signal is raised nor the loop has ended. -/
theorem tick_of_not_isClosed {s : Scheduler} (h : s.isClosed = false) :
    s.tick =
      ({ s with
          ticks := s.ticks + 1
          slots := s.turns.slots
          inFlight := s.inFlight ++ s.turns.fired.map fun m => (m, .fetching) },
        s.turns.effects, s.turns.answer) := by
  unfold tick
  exact if_neg (by rw [← isClosed, h]; exact Bool.false_ne_true)

@[simp] theorem signal_tick : s.tick.1.signal = s.signal := by
  unfold tick
  split <;> rfl

theorem books_beat (deadline : Rat) : (s.beat deadline).1.books = s.tick.1.books := by
  unfold beat
  split <;> simp_all [books]

@[simp] theorem signal_beat (deadline : Rat) : (s.beat deadline).1.signal = s.signal := by
  have h := signal_tick s
  unfold beat
  split <;> simp_all

theorem effects_beat (deadline : Rat) : (s.beat deadline).2 = s.tick.2.1 := by
  unfold beat
  split <;> simp_all

/-- A loop whose sleep is over ticks. -/
theorem wake_of_isRoused {s : Scheduler} (h : s.isRoused = true) :
    ∃ deadline, s.wake = s.beat deadline := by
  unfold isRoused at h
  unfold wake
  cases hloop : s.loop with
  | asleep sleep deadline =>
    simp only [hloop] at h ⊢
    split at h
    · rename_i hsleep
      exact ⟨deadline, by rw [hsleep]⟩
    · cases h
  | _ => simp [hloop] at h

/-- Any other loop that goes on winds down, and ticks no more. -/
theorem wake_of_not_isRoused {s : Scheduler} (h : s.isRoused = false) :
    s.wake = s.windDown ∨ s.wake = (s, []) := by
  unfold isRoused at h
  unfold wake
  cases hloop : s.loop with
  | asleep sleep deadline =>
    simp only [hloop] at h ⊢
    split
    · simp_all
    · exact .inl rfl
    · exact .inr rfl
  | _ => exact .inr rfl

end Scheduler

end NodeProbe
