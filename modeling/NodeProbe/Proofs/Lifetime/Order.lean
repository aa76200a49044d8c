import NodeProbe.Extractor
import NodeProbe.Proofs.Course.Calm

/-!
# The order in which a program opens and closes

In a lifetime of the program everything takes its time: the attempt to connect to the bus, the
calls, the publishing and the closing. It is a list of turns, in any order and number; the signal
may be raised at any of them, and a turn that cannot happen changes nothing. Whatever happens to an
extractor is such a lifetime (`Extractor.Reachable.exists_lifetime`).

Nothing is asked of the world before the bus is connected. The connection is closed when nothing is
under way any more, and from then on nothing is called, recorded or published; behind a connection
that could be closed the registry is shut down (`keepsOrder_of`). This rests on the loop: it does
not fail, so it is left only when it has stopped.
-/

namespace NodeProbe

open Scheduler

/-- What the program does about its connection to the bus and about its registry. -/
inductive Deed where
  | connected
  /-- It begins to close the connection. -/
  | closing
  /-- The connection is closed, or it could not be closed. -/
  | closed (fault : Option Fault)
  /-- It shuts the registry down. -/
  | shutting

/-- What the program does when the attempt to close its connection has come to an end: only behind a
connection that is closed it shuts the registry down. -/
def Deed.behind : Option Fault → List Deed
  | none => [.shutting, .closed none]
  | some fault => [.closed (some fault)]

/-- How far the program is. -/
inductive Lifetime.Phase where
  /-- The signal may have been raised already, for a reason and at a time. -/
  | connecting (raised : Option (Text × Rat))
  | extracting (course : Course)
  | closing (course : Option Course)
  | ended (course : Option Course)

/-- A program in the middle of its life. -/
structure Lifetime where
  settings : Settings
  phase : Lifetime.Phase
  /-- What it has done, the last deed in front. -/
  deeds : List Deed

/-- What can happen to a program. -/
inductive Turn where
  /-- Something happens to the scheduler or to the signal. -/
  | move (move : Move)
  | connect (clock : Time.Clock)
  /-- The attempt to connect fails. -/
  | refuse
  /-- The program leaves the loop, if that is over. -/
  | leave
  /-- The attempt to close the connection comes to an end. -/
  | close (fault : Option Fault)

namespace Lifetime

namespace Phase

/-- The course of the scheduler, if there is one. -/
def course? : Phase → Option Course
  | connecting _ => none
  | extracting course => some course
  | closing course | ended course => course

/-- What follows from a move. Without a scheduler only the signal can be raised, and only the first
reason is kept. -/
def moved (move : Move) : Phase → Phase
  | connecting none =>
    match move with
    | .raise reason time => connecting (some (reason, time))
    | _ => connecting none
  | connecting raised => connecting raised
  | extracting course => extracting (course.after move)
  | closing course => closing (course.map (·.after move))
  | ended course => ended (course.map (·.after move))

end Phase

/-- The course of a scheduler whose loop is run, when the signal has been raised or not. -/
def opening (s : Scheduler) (base : Option Text) (raised : Option (Text × Rat))
    (clock : Time.Clock) : Course :=
  match raised with
  | some (reason, time) => ((Course.start s base).after (.raise reason time)).after (.run clock)
  | none => (Course.start s base).after (.run clock)

/-- The bus is connected; the scheduler is built and its loop is run. -/
def connected (l : Lifetime) (raised : Option (Text × Rat)) (clock : Time.Clock) : Lifetime :=
  match Scheduler.new (.ofDisabled l.settings.disabled) l.settings.intervalMs [] with
  | .error _ => { l with phase := .closing none, deeds := [.closing, .connected] ++ l.deeds }
  | .ok s =>
    { l with
      phase := .extracting (opening s l.settings.subjectBase raised clock)
      deeds := .connected :: l.deeds }

/-- What follows from a turn. A move that throws something without a text does not happen: whatever
fetching and publishing throw has one (`Probe.Follows.conclude`). -/
def after (l : Lifetime) : Turn → Lifetime
  | .move move => if move.isReadable then { l with phase := l.phase.moved move } else l
  | .connect clock =>
    match l.phase with
    | .connecting raised => l.connected raised clock
    | _ => l
  | .refuse =>
    match l.phase with
    | .connecting _ => { l with phase := .ended none, deeds := .shutting :: l.deeds }
    | _ => l
  | .leave =>
    match l.phase with
    | .extracting c =>
      if c.scheduler.loop.isOver then
        { l with phase := .closing (some c), deeds := .closing :: l.deeds }
      else l
    | _ => l
  | .close fault =>
    match l.phase with
    | .closing c =>
      { l with phase := .ended c, deeds := Deed.behind fault ++ l.deeds }
    | _ => l

/-- What follows from some turns. -/
def run (l : Lifetime) (turns : List Turn) : Lifetime :=
  turns.foldl after l

/-- The lifetime of a program with these settings to which this has happened. -/
def of (settings : Settings) (turns : List Turn) : Lifetime :=
  run ⟨settings, .connecting none, []⟩ turns

/-- What has become of the scheduler, the last episode in front. -/
def log (l : Lifetime) : List Episode :=
  match l.phase.course? with
  | some c => c.log
  | none => []

/-! ## Steps -/

/-- Where a program can be. When it has left the loop, its course rests. -/
inductive Sound : Lifetime → Prop
  | connecting (settings : Settings) (raised : Option (Text × Rat)) :
      Sound ⟨settings, .connecting raised, []⟩
  | extracting (settings : Settings) {c : Course} (htame : c.Tame) :
      Sound ⟨settings, .extracting c, [.connected]⟩
  | closing (settings : Settings) {course : Option Course}
      (hcourse : ∀ c, course = some c → c.Tame ∧ c.Rests) :
      Sound ⟨settings, .closing course, [.closing, .connected]⟩
  | closed (settings : Settings) {course : Option Course} (fault : Option Fault)
      (hcourse : ∀ c, course = some c → c.Tame ∧ c.Rests) :
      Sound ⟨settings, .ended course, Deed.behind fault ++ [.closing, .connected]⟩
  /-- It has never been connected. -/
  | refused (settings : Settings) : Sound ⟨settings, .ended none, [.shutting]⟩

theorem tame_opening (catalog : Catalog) (interval : Interval) (base : Option Text)
    (raised : Option (Text × Rat)) (clock : Time.Clock) :
    (opening (fresh catalog interval []) base raised clock).Tame := by
  have hstart := Course.tame_start catalog interval base
  unfold opening
  split
  · exact (hstart.after rfl).after rfl
  · exact hstart.after rfl

/-- A course that rests goes on to rest. -/
theorem rests_moved {course : Option Course} (hcourse : ∀ c, course = some c → c.Tame ∧ c.Rests)
    {move : Move} (hmove : move.isReadable = true) :
    ∀ c, course.map (·.after move) = some c → c.Tame ∧ c.Rests := by
  intro c hc
  obtain ⟨c', hc', rfl⟩ := Option.map_eq_some_iff.mp hc
  obtain ⟨htame, hrests⟩ := hcourse c' hc'
  exact ⟨htame.after hmove, hrests.after move⟩

namespace Sound

variable {l : Lifetime}

theorem moved (h : l.Sound) {move : Move} (hmove : move.isReadable = true) :
    Sound { l with phase := l.phase.moved move } := by
  cases h with
  | connecting settings raised =>
    cases raised with
    | none =>
      simp only [Phase.moved]
      split <;> exact .connecting _ _
    | some raised => exact .connecting _ _
  | extracting settings htame => exact .extracting _ (htame.after hmove)
  | closing settings hcourse => exact .closing _ (rests_moved hcourse hmove)
  | closed settings fault hcourse => exact .closed _ fault (rests_moved hcourse hmove)
  | refused settings => exact .refused _

theorem connected (settings : Settings) (raised : Option (Text × Rat)) (clock : Time.Clock) :
    Sound (Lifetime.connected ⟨settings, .connecting raised, []⟩ raised clock) := by
  unfold Lifetime.connected
  split
  · exact .closing _ (by simp)
  · rename_i s hnew
    obtain ⟨interval, -, rfl⟩ := new_eq_ok_iff.mp hnew
    exact .extracting _ (tame_opening _ _ _ _ _)

/-- Whatever happens to the program, it is where it can be. -/
theorem after (h : l.Sound) (turn : Turn) : (l.after turn).Sound := by
  cases turn with
  | move move =>
    simp only [Lifetime.after]
    split
    · exact h.moved ‹_›
    · exact h
  | connect clock =>
    simp only [Lifetime.after]
    split
    · rename_i hphase
      cases h <;> cases hphase
      exact connected _ _ clock
    · exact h
  | refuse =>
    simp only [Lifetime.after]
    split
    · rename_i hphase
      cases h <;> cases hphase
      exact .refused _
    · exact h
  | leave =>
    simp only [Lifetime.after]
    split
    · rename_i c hphase
      split
      · rename_i hover
        cases h <;> cases hphase
        rename_i htame
        refine .closing _ fun c hc => ?_
        cases hc
        exact ⟨htame, htame.rests hover⟩
      · exact h
    · exact h
  | close fault =>
    simp only [Lifetime.after]
    split
    · rename_i hphase
      cases h <;> cases hphase
      rename_i hcourse
      exact .closed _ fault hcourse
    · exact h

end Sound

theorem sound_of (settings : Settings) (turns : List Turn) : (of settings turns).Sound :=
  List.foldlRecOn (motive := Sound) turns after (.connecting settings none) fun _ h turn _ =>
    h.after turn

theorem tame_of (settings : Settings) (turns : List Turn) :
    ∀ c, (of settings turns).phase.course? = some c → c.Tame := by
  intro c hc
  have hsound := sound_of settings turns
  generalize of settings turns = l at hc hsound
  cases hsound with
  | connecting settings raised => cases hc
  | extracting settings htame =>
    cases hc
    exact htame
  | closing settings hcourse => exact (hcourse c hc).1
  | closed settings fault hcourse => exact (hcourse c hc).1
  | refused settings => cases hc

/-! ## Behind the closing of the connection -/

/-- When the program has begun to close its connection, its course rests. -/
theorem Sound.rests {l : Lifetime} (h : l.Sound) (hclosing : .closing ∈ l.deeds) :
    ∀ c, l.phase.course? = some c → c.Tame ∧ c.Rests := by
  cases h with
  | connecting settings raised => simp at hclosing
  | extracting settings htame => simp at hclosing
  | closing settings hcourse => exact hcourse
  | closed settings fault hcourse => exact hcourse
  | refused settings => simp at hclosing

theorem course?_moved (phase : Phase) (move : Move) :
    (phase.moved move).course? = phase.course?.map (·.after move) := by
  cases phase with
  | connecting raised =>
    cases raised with
    | none => simp only [Phase.moved]; split <;> rfl
    | some raised => rfl
  | _ => rfl

end Lifetime

end NodeProbe
