import NodeProbe.Extractor
import NodeProbe.Proofs.Probe.Change

/-!
# What can come of an extractor

Once it has been started, an extractor goes on in steps (`Extractor.Step`): the signal is raised, an
alarm rings, time passes, the bus fails or works again, the metrics are read. In the journal some
entries mark what it does with its connection to the bus and with its registry. No change to a probe
leaves such a mark or shuts the registry down; only the extractor around it does.
-/

namespace NodeProbe

/-- It is about the connection to the bus or about the registry. -/
def Happening.isMark : Happening → Bool
  | connecting _ | closing | shutting => true
  | _ => false

/-- The marks among some happenings. -/
def Happening.marks (happened : List Happening) : List Happening :=
  happened.filter (·.isMark)

/-- What a journal tells, in the order of time. -/
def Record.story (journal : List Record) : List Happening :=
  (journal.map (·.what)).reverse

namespace Happening

@[simp] theorem marks_nil : marks [] = [] := rfl

variable (happened : List Happening)

@[simp] theorem marks_cons_printed (line : Line) :
    marks (.printed line :: happened) = marks happened := rfl

@[simp] theorem marks_cons_connecting (access : BusAccess) :
    marks (.connecting access :: happened) = .connecting access :: marks happened := rfl

@[simp] theorem marks_cons_closing :
    marks (.closing :: happened) = .closing :: marks happened := rfl

@[simp] theorem marks_cons_shutting :
    marks (.shutting :: happened) = .shutting :: marks happened := rfl

@[simp] theorem marks_append (happened' : List Happening) :
    marks (happened ++ happened') = marks happened ++ marks happened' :=
  List.filter_append _ _

/-- What is printed is no mark. -/
@[simp] theorem marks_printed (lines : List Line) : marks (lines.map .printed) = [] := by
  rw [marks, List.filter_eq_nil_iff]
  intro what hwhat
  obtain ⟨line, -, rfl⟩ := List.mem_map.mp hwhat
  exact Bool.false_ne_true

end Happening

open Happening (marks)

namespace Metrics.Registry

theorem isShut_respond (r : Registry) (program : Text) (token : Option Text) (q : Inquiry) :
    (r.respond program token q).1.isShut = r.isShut := by
  unfold respond
  split
  · rfl
  · split
    · split
      · rfl
      · rename_i heq
        unfold refresh at heq
        split at heq
        · cases heq
        · cases heq
          rfl
    · rfl

end Metrics.Registry

namespace Record

theorem story_append (new old : List Record) : story (new ++ old) = story old ++ story new := by
  simp [story]

theorem marks_story_eq_nil {journal : List Record}
    (h : ∀ r ∈ journal, r.what.isMark = false) : marks (story journal) = [] := by
  rw [marks, List.filter_eq_nil_iff]
  intro what hwhat
  obtain ⟨r, hr, rfl⟩ := List.mem_map.mp (List.mem_reverse.mp hwhat)
  exact Bool.eq_false_iff.mp (h r hr)

end Record

namespace Probe

/-- The journal has grown by entries that are no marks, and the registry is as open as before. -/
structure Adds (p q : Probe) : Prop where
  journal_eq : ∃ new, q.journal = new ++ p.journal ∧ ∀ r ∈ new, r.what.isMark = false
  isShut_eq : q.registry.isShut = p.registry.isShut

namespace Adds

variable {p q q' : Probe}

theorem refl (p : Probe) : p.Adds p :=
  ⟨⟨[], rfl, List.forall_mem_nil _⟩, rfl⟩

theorem congr (h : p.Adds q) (hjournal : q'.journal = q.journal)
    (hshut : q'.registry.isShut = q.registry.isShut) : p.Adds q' := by
  obtain ⟨hadded, hopen⟩ := h
  exact ⟨hjournal ▸ hadded, hshut.trans hopen⟩

theorem note (h : p.Adds q) (m : Option Method) {what : Happening}
    (hwhat : what.isMark = false) : p.Adds (q.note m what) := by
  obtain ⟨⟨new, hjournal, hnew⟩, hopen⟩ := h
  refine ⟨⟨⟨q.clock.now, m, what⟩ :: new, ?_, List.forall_mem_cons.mpr ⟨hwhat, hnew⟩⟩, hopen⟩
  rw [Probe.note, hjournal, List.cons_append]

theorem perform (h : p.Adds q) (e : Scheduler.Effect) : p.Adds (q.perform e) := by
  cases e with
  | call m =>
    have hnoted : p.Adds (q.note (some m) .called) := h.note _ rfl
    exact hnoted.congr rfl rfl
  | record m what =>
    have hnoted : p.Adds (q.note (some m) (.recorded what)) := h.note _ rfl
    simp only [Probe.perform, Probe.record]
    split
    · exact hnoted
    · exact hnoted.congr rfl rfl
  | print notice => exact h.note _ rfl

theorem change (hchange : Change q q') (h : p.Adds q) : p.Adds q' := by
  cases hchange with
  | perform e => exact h.perform e
  | deliver m message => exact h.note _ rfl
  | abort m => exact h.note _ rfl
  | _ => exact h.congr rfl rfl

/-- No change to a probe leaves a mark or shuts its registry down. -/
theorem of_changes (hchanges : Changes p q) : p.Adds q :=
  hchanges.preserves change (refl p)

theorem marks_eq (h : p.Adds q) :
    marks (Record.story q.journal) = marks (Record.story p.journal) := by
  obtain ⟨⟨new, hjournal, hnew⟩, -⟩ := h
  rw [hjournal, Record.story_append, Happening.marks_append, Record.marks_story_eq_nil hnew,
    List.append_nil]

end Adds

end Probe

namespace Extractor

/-- The registry of the program. -/
def registry (e : Extractor) : Metrics.Registry :=
  match e.progress with
  | .failed r => r.registry
  | .probing p | .finished p => p.registry

/-- The program with another clock and another registry. -/
def adjust (e : Extractor) (clock : Time.Clock) (registry : Metrics.Registry) : Extractor :=
  { e with progress :=
      match e.progress with
      | .failed r => .failed { r with clock, registry }
      | .probing p => .probing { p with clock, registry }
      | .finished p => .finished { p with clock, registry } }

theorem respond_eq (e : Extractor) (inquiry : Metrics.Inquiry) :
    (e.respond inquiry).1 = e.adjust e.clock
      (e.registry.respond e.around.identity.package e.settings.bearerToken inquiry).1 := by
  obtain ⟨world, own, progress⟩ := e
  cases progress <;> rfl

theorem moveTo_eq (e : Extractor) (time : Rat) :
    e.moveTo time = e.adjust { e.clock with now := time } e.registry := by
  obtain ⟨world, own, progress⟩ := e
  cases progress <;> rfl

/-- What can happen to a program that has been started. -/
inductive Step : Extractor → Extractor → Prop
  | raise (e : Extractor) (reason : Text) : Step e (e.raise reason)
  | setBus (e : Extractor) (fault : Option Fault) : Step e (e.setBus fault)
  | respond (e : Extractor) (inquiry : Metrics.Inquiry) : Step e (e.respond inquiry).1
  | ring (e : Extractor) (alarm : Time.Alarm) : Step e (e.onProbe (·.ring alarm))
  | moveTo (e : Extractor) (time : Rat) : Step e (e.moveTo time)

/-- What can come of a program that is started in some surroundings; the signal may have been raised
before. -/
inductive Reachable (around : Surroundings) (settings : Settings) (first : Nat)
    (raised : Option Text) : Extractor → Prop
  | initial : Reachable around settings first raised (start around settings first raised)
  | step {e e' : Extractor} (h : Reachable around settings first raised e) (hstep : Step e e') :
      Reachable around settings first raised e'

/-- Time goes on in steps. -/
theorem Reachable.advance {around : Surroundings} {settings : Settings} {first : Nat}
    {raised : Option Text} {e : Extractor} (h : Reachable around settings first raised e)
    (ms : Rat) : Reachable around settings first raised (Time.Timed.advance e ms) :=
  Time.Timed.advance_induction (fun e time h => h.step (.moveTo e time))
    (fun e alarm h => h.step (.ring e alarm)) h ms

end Extractor

end NodeProbe
