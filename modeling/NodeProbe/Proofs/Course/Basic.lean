import NodeProbe.Proofs.Publishing
import NodeProbe.Proofs.Scheduler.Ending

/-!
# The course of a scheduler

A course is a scheduler together with what has come of it: the extractions that have been begun and
not ended, the messages on the bus, and a log. What happens to it is a list of moves, in any order
and number: ticks from outside, starting the loop and going on with it, waits, the signal, alarms,
and for each extraction its outcome and then the answer of the bus. A move that cannot happen, such
as the outcome of an extraction that is not waiting for one, changes nothing.

The extractions are kept apart from the calls under way that the scheduler itself keeps: one begins
when a call is made and ends when nothing follows from its outcome any more, whatever the scheduler
believes. `after_induction` says which steps a move consists of, and `run_induction` proves what
holds in every course. Whatever is done to a probe is such a course (`Reachable.exists_course`).
-/

namespace NodeProbe

open Scheduler

/-- An extraction that has been begun and not ended. -/
inductive Extraction where
  /-- It waits for the outcome of its call. -/
  | fetching (method : Method)
  /-- It waits for the answer of the bus. -/
  | publishing (method : Method) (event : Event)

namespace Extraction

/-- The call of an extraction. -/
def method : Extraction → Method
  | fetching m | publishing m _ => m

/-- How far an extraction is. -/
def stage : Extraction → Stage
  | fetching _ => .fetching
  | publishing _ _ => .publishing

@[simp] theorem method_fetching (m : Method) : (fetching m).method = m := rfl

@[simp] theorem method_publishing (m : Method) (event : Event) :
    (publishing m event).method = m := rfl

end Extraction

/-- A tick that counted. -/
structure Beat where
  number : Nat
  /-- The calls whose extractions had not ended when it came. -/
  busy : List Method
  effects : List Effect
  /-- What the tick answered, or threw. -/
  answer : Except Fault (List Method)

namespace Beat

/-- The call is made at this tick. -/
def Fires (b : Beat) (m : Method) : Prop :=
  .call m ∈ b.effects

/-- A skip of the call is recorded at this tick. -/
def Skips (b : Beat) (m : Method) : Prop :=
  .record m .skip ∈ b.effects

end Beat

/-- An entry of the log. -/
inductive Episode where
  | beat (b : Beat)
  | fetched (method : Method) (result : Except Fault Outcome) (effects : List Effect)
  | published (method : Method) (result : Except Fault (Option PublishFault))
      (effects : List Effect)
  | other (effects : List Effect)

namespace Episode

/-- What was asked of the world. -/
def effects : Episode → List Effect
  | beat b => b.effects
  | fetched _ _ effects | published _ _ effects | other effects => effects

/-- The tick, if it was one. -/
def beat? : Episode → Option Beat
  | beat b => some b
  | _ => none

end Episode

/-- A scheduler and what has come of it. -/
structure Course where
  scheduler : Scheduler
  /-- What the subjects begin with. -/
  base : Option Text
  bus : Bus
  /-- The extractions that have not ended, in the order in which they were begun. -/
  extractions : List Extraction
  /-- What has happened, the last entry in front. -/
  log : List Episode

/-- What may happen. -/
inductive Move where
  /-- A tick from outside the loop. -/
  | tick
  /-- The loop is started, or someone tries to. -/
  | run (clock : Time.Clock)
  /-- The loop goes on if its sleep is over. -/
  | resume (clock : Time.Clock)
  /-- The waits go on if they can. -/
  | stop
  | drain
  | raise (reason : Text) (time : Rat)
  /-- An alarm of the signal rings. -/
  | ring (alarm : Time.Alarm) (time : Rat)
  /-- The call of an extraction comes to an outcome, or the fetching itself throws. -/
  | fetched (number : Nat) (result : Except Fault Outcome) (time : Rat)
  /-- The bus takes the message of an extraction or refuses it, or the publishing itself throws. -/
  | published (number : Nat) (answer : Except Fault (Option Fault))

/-- What is thrown by the move has a text. -/
def Move.isReadable : Move → Bool
  | fetched _ (.error fault) _ | published _ (.error fault) => fault.isReadable
  | _ => true

theorem Move.isReadable_fetched {result : Except Fault Outcome}
    (h : ∀ fault, result = .error fault → fault.isReadable = true) (number : Nat) (time : Rat) :
    (fetched number result time).isReadable = true := by
  cases result with
  | ok outcome => rfl
  | error fault => exact h fault rfl

namespace Course

/-- The course of a scheduler to which nothing has happened. -/
def start (s : Scheduler) (base : Option Text) : Course :=
  ⟨s, base, .accepting, [], []⟩

/-- The ticks that counted, the last one in front. -/
def beats (c : Course) : List Beat :=
  c.log.filterMap (·.beat?)

/-- The calls whose extractions have not ended. -/
def busy (c : Course) : List Method :=
  c.extractions.map (·.method)

/-! ## Moves -/

/-- Something happened in which no call was made and none ended. -/
def quietly (c : Course) (s : Scheduler) (effects : List Effect) : Course :=
  { c with scheduler := s, log := .other effects :: c.log }

/-- A tick happened, which left this scheduler behind. It is in the log if it counted. -/
def ticked (c : Course) (s : Scheduler) : Course :=
  if c.scheduler.isClosed then c.quietly s []
  else
    let (_, effects, answer) := c.scheduler.tick
    { c with
      scheduler := s
      extractions := c.extractions ++ (effects.filterMap Effect.callee?).map .fetching
      log := .beat ⟨s.ticks, c.busy, effects, answer⟩ :: c.log }

/-- The loop goes on: it ticks if its sleep is over, and then sleeps again or winds down. -/
def resume (c : Course) (clock : Time.Clock) : Course :=
  let (s, effects) := c.scheduler.wake
  let c := if c.scheduler.isRoused then c.ticked s else c.quietly s effects
  let (_, s, effects) := c.scheduler.goOn clock
  c.quietly s effects

/-- The event of a result. -/
def event (m : Method) (payload : Bytes) (time : Rat) : Event :=
  ⟨m.name, payload, Time.Instant.ofRat? time⟩

/-- The call of an extraction has come to an outcome. -/
def fetched (c : Course) (number : Nat) (m : Method) (result : Except Fault Outcome)
    (time : Rat) : Course :=
  let (s, effects, payload) := c.scheduler.fetched m result
  { c with
    scheduler := s
    extractions := match payload with
      | some payload => c.extractions.set number (.publishing m (event m payload time))
      | none => c.extractions.eraseIdx number
    log := .fetched m result effects :: c.log }

/-- The event of an extraction has been published or not. -/
def published (c : Course) (number : Nat) (m : Method) (event : Event)
    (answer : Except Fault (Option Fault)) : Course :=
  let (bus, result) := event.offer c.base c.bus answer
  let (s, effects) := c.scheduler.published m result
  { c with
    scheduler := s
    bus
    extractions := c.extractions.eraseIdx number
    log := .published m result effects :: c.log }

/-- What follows from a move. -/
def after (c : Course) : Move → Course
  | .tick => c.ticked c.scheduler.tick.1
  | .run clock =>
    match c.scheduler.run clock with
    | .ok (_, s, effects) => c.quietly s effects
    | .error _ => c
  | .resume clock => c.resume clock
  | .stop => c.quietly c.scheduler.stop.1 c.scheduler.stop.2
  | .drain => c.quietly c.scheduler.drain []
  | .raise reason time =>
    c.quietly { c.scheduler with signal := c.scheduler.signal.raise reason time } []
  | .ring alarm time =>
    c.quietly { c.scheduler with signal := c.scheduler.signal.ring alarm time } []
  | .fetched number result time =>
    match c.extractions[number]? with
    | some (.fetching m) => c.fetched number m result time
    | _ => c
  | .published number answer =>
    match c.extractions[number]? with
    | some (.publishing m event) => c.published number m event answer
    | _ => c

/-- What follows from some moves. -/
def run (c : Course) (moves : List Move) : Course :=
  moves.foldl after c

/-- The course of a scheduler to which this has happened. -/
def of (catalog : Catalog) (interval : Interval) (broken : List Part) (base : Option Text)
    (moves : List Move) : Course :=
  (start (fresh catalog interval broken) base).run moves

theorem run_append (c : Course) (moves moves' : List Move) :
    c.run (moves ++ moves') = (c.run moves).run moves' :=
  List.foldl_append

theorem mem_beats_iff {c : Course} {b : Beat} : b ∈ c.beats ↔ .beat b ∈ c.log := by
  rw [beats, List.mem_filterMap]
  refine ⟨?_, fun h => ⟨_, h, rfl⟩⟩
  rintro ⟨episode, hepisode, hb⟩
  cases episode with
  | beat b' => exact Option.some.inj hb ▸ hepisode
  | _ => cases hb

theorem ticked_of_isClosed {c : Course} {s : Scheduler} (h : c.scheduler.isClosed = true) :
    c.ticked s = c.quietly s [] := by
  rw [ticked, if_pos h]

theorem ticked_of_not_isClosed {c : Course} {s : Scheduler} (h : c.scheduler.isClosed = false) :
    c.ticked s =
      { c with
        scheduler := s
        extractions := c.extractions ++ c.scheduler.turns.fired.map .fetching
        log := .beat ⟨s.ticks, c.busy, c.scheduler.turns.effects, c.scheduler.turns.answer⟩ ::
          c.log } := by
  rw [ticked, h, if_neg Bool.false_ne_true, tick_of_not_isClosed h]
  simp only [turns, tickSlots_callees]

theorem beats_ticked {c : Course} {s : Scheduler} (h : c.scheduler.isClosed = false) :
    (c.ticked s).beats =
      ⟨s.ticks, c.busy, c.scheduler.turns.effects, c.scheduler.turns.answer⟩ :: c.beats := by
  rw [ticked_of_not_isClosed h]
  rfl

@[simp] theorem scheduler_ticked (c : Course) (s : Scheduler) : (c.ticked s).scheduler = s := by
  unfold ticked
  split <;> rfl

section Fetched

variable {c : Course} {number : Nat} {m : Method} {result : Except Fault Outcome} {time : Rat}

theorem fetched_of_payload_eq_none (h : (c.scheduler.fetched m result).2.2 = none) :
    c.fetched number m result time =
      { c with
        scheduler := (c.scheduler.fetched m result).1
        extractions := c.extractions.eraseIdx number
        log := .fetched m result (c.scheduler.fetched m result).2.1 :: c.log } := by
  simp only [fetched, h]

theorem fetched_of_payload_eq_some {payload : Bytes}
    (h : (c.scheduler.fetched m result).2.2 = some payload) :
    c.fetched number m result time =
      { c with
        scheduler := (c.scheduler.fetched m result).1
        extractions := c.extractions.set number (.publishing m (event m payload time))
        log := .fetched m result (c.scheduler.fetched m result).2.1 :: c.log } := by
  simp only [fetched, h]

end Fetched

/-! ## Steps -/

/-- What a move consists of: nothing that touches the books, a tick that counts, or a further step
of an extraction. -/
inductive Step : Course → Course → Prop
  | quiet {c : Course} {s : Scheduler} {effects : List Effect}
      (hbooks : s.books = c.scheduler.books) (hremarks : ∀ e ∈ effects, e.IsRemark) :
      Step c (c.quietly s effects)
  | beat {c : Course} {s : Scheduler} (hopen : c.scheduler.isClosed = false)
      (hbooks : s.books = c.scheduler.tick.1.books) : Step c (c.ticked s)
  | fetched {c : Course} {number : Nat} {m : Method} (result : Except Fault Outcome) (time : Rat)
      (hget : c.extractions[number]? = some (.fetching m)) :
      Step c (c.fetched number m result time)
  | published {c : Course} {number : Nat} {m : Method} {event : Event}
      (answer : Except Fault (Option Fault))
      (hget : c.extractions[number]? = some (.publishing m event)) :
      Step c (c.published number m event answer)

namespace Step

variable {c c' : Course}

/-- No step mends or breaks the recorder. -/
theorem broken_eq (h : Step c c') : c'.scheduler.broken = c.scheduler.broken := by
  cases h with
  | quiet hbooks _ => exact congrArg Books.broken hbooks
  | beat hopen hbooks =>
    rw [tick_of_not_isClosed hopen] at hbooks
    rw [ticked_of_not_isClosed hopen]
    exact congrArg Books.broken hbooks
  | fetched result time _ => exact broken_fetched _ _ _
  | published answer _ => exact broken_published _ _ _

/-- No step changes what the subjects begin with. -/
theorem base_eq (h : Step c c') : c'.base = c.base := by
  cases h with
  | beat hopen _ => rw [ticked_of_not_isClosed hopen]
  | _ => rfl

/-- What has happened stays on record. -/
theorem log_suffix (h : Step c c') : c.log <:+ c'.log := by
  cases h with
  | quiet _ _ => exact List.suffix_cons _ _
  | beat hopen _ =>
    rw [ticked_of_not_isClosed hopen]
    exact List.suffix_cons _ _
  | fetched result time _ => exact List.suffix_cons _ _
  | published answer _ => exact List.suffix_cons _ _

theorem beats_suffix (h : Step c c') : c.beats <:+ c'.beats :=
  h.log_suffix.filterMap _

/-- No step changes the entries of the catalog. -/
theorem specs_eq (h : Step c c') :
    c'.scheduler.slots.map (·.spec) = c.scheduler.slots.map (·.spec) := by
  cases h with
  | quiet hbooks _ => exact congrArg (List.map (·.spec)) (congrArg Books.slots hbooks)
  | beat hopen hbooks =>
    rw [tick_of_not_isClosed hopen] at hbooks
    rw [ticked_of_not_isClosed hopen]
    exact (congrArg (List.map (·.spec)) (congrArg Books.slots hbooks)).trans tickSlots_specs
  | fetched result time _ => exact congrArg _ (slots_fetched _ _ _)
  | published answer _ => exact congrArg _ (slots_published _ _ _)

end Step

section Induction

variable {P : Course → Prop}

theorem ticked_induction (step : ∀ {c c'}, P c → Step c c' → P c') {c : Course} {s : Scheduler}
    (h : P c) (hbooks : s.books = c.scheduler.tick.1.books) : P (c.ticked s) := by
  cases hclosed : c.scheduler.isClosed with
  | true =>
    rw [ticked_of_isClosed hclosed]
    rw [tick_of_isClosed hclosed] at hbooks
    exact step h (.quiet hbooks (by simp))
  | false => exact step h (.beat hclosed hbooks)

/-- What each step preserves, each move preserves. -/
theorem after_induction (step : ∀ {c c'}, P c → Step c c' → P c') {c : Course} (h : P c)
    (move : Move) : P (c.after move) := by
  cases move with
  | tick => exact ticked_induction step h rfl
  | run clock =>
    simp only [after]
    split
    · rename_i hrun
      obtain ⟨-, rfl, hremarks⟩ := run_eq_ok hrun
      exact step h (.quiet (books_continueLoop _ _ _) hremarks)
    · exact h
  | resume clock =>
    have hgoOn : ∀ {c' : Course}, P c' →
        P (c'.quietly (c'.scheduler.goOn clock).2.1 (c'.scheduler.goOn clock).2.2) :=
      fun h' => step h' (.quiet (books_goOn _ clock) (remarks_goOn _ clock))
    simp only [after, resume]
    apply hgoOn
    cases hroused : c.scheduler.isRoused with
    | true =>
      obtain ⟨deadline, hwake⟩ := wake_of_isRoused hroused
      rw [if_pos rfl, hwake]
      exact ticked_induction step h (books_beat _ _)
    | false =>
      rw [if_neg Bool.false_ne_true]
      rcases wake_of_not_isRoused hroused with hwake | hwake
      · rw [hwake]
        exact step h (.quiet (books_windDown _) (remarks_windDown _))
      · rw [hwake]
        exact step h (.quiet rfl (by simp))
  | stop => exact step h (.quiet (books_stop _) (remarks_stop _))
  | drain => exact step h (.quiet (books_drain _) (by simp))
  | raise reason time => exact step h (.quiet rfl (by simp))
  | ring alarm time => exact step h (.quiet rfl (by simp))
  | fetched number result time =>
    simp only [after]
    split
    · exact step h (.fetched result time ‹_›)
    · exact h
  | published number answer =>
    simp only [after]
    split
    · exact step h (.published answer ‹_›)
    · exact h

/-- What holds in the beginning and is preserved by each step, holds in every course. -/
theorem run_induction (step : ∀ {c c'}, P c → Step c c' → P c') {c : Course} (h : P c)
    (moves : List Move) : P (c.run moves) := by
  induction moves generalizing c with
  | nil => exact h
  | cons move moves ih => exact ih (after_induction step h move)

end Induction

/-! ## Courses -/

theorem orderly_after {c : Course} (h : c.scheduler.Orderly) (move : Move) :
    (c.after move).scheduler.Orderly := by
  cases move with
  | tick =>
    simp only [after, scheduler_ticked]
    exact h.tick
  | run clock =>
    simp only [after]
    split
    · exact h.run ‹_›
    · exact h
  | resume clock =>
    simp only [after, resume]
    refine Orderly.goOn ?_ clock
    split
    · rw [scheduler_ticked]
      exact h.wake
    · exact h.wake
  | stop => exact h.stop
  | drain => exact h.drain
  | raise reason time => exact h.raise reason time
  | ring alarm time => exact h.ring alarm time
  | fetched number result time =>
    simp only [after]
    split
    · exact h.fetched _ result
    · exact h
  | published number answer =>
    simp only [after]
    split
    · exact h.published _ _
    · exact h

variable (catalog : Catalog) (interval : Interval) (broken : List Part) (base : Option Text)
  (moves : List Move)

theorem of_concat (move : Move) :
    of catalog interval broken base (moves ++ [move]) =
      (of catalog interval broken base moves).after move := by
  rw [of, run, List.foldl_append]
  rfl

@[simp] theorem broken_of : (of catalog interval broken base moves).scheduler.broken = broken :=
  run_induction (P := (·.scheduler.broken = broken)) (fun h hstep => hstep.broken_eq.trans h) rfl _

theorem orderly_of : (of catalog interval broken base moves).scheduler.Orderly :=
  List.foldlRecOn (motive := (·.scheduler.Orderly)) moves after
    (orderly_fresh catalog interval broken) fun _ h move _ => orderly_after h move

theorem specs_of :
    (of catalog interval broken base moves).scheduler.slots.map (·.spec) = catalog.specs := by
  refine run_induction (P := (·.scheduler.slots.map (·.spec) = catalog.specs))
    (fun h hstep => hstep.specs_eq.trans h) ?_ _
  rw [start, fresh, List.map_map]
  exact List.map_id _

end Course

end NodeProbe
