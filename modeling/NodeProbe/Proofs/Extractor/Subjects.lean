import NodeProbe.Proofs.Bus.Subject
import NodeProbe.Proofs.Config.Reading
import NodeProbe.Proofs.Extractor.Disabled

/-!
# Nothing shares a subject

The settings give the subjects a base that is a dotted text, or none. So every subject is a dotted
text that ends in the name of its call, and whatever two programs put on their buses, a subject that
they share is that of the same call below the same base (`Settings.separatesSubjects`).
-/

namespace NodeProbe

open Scheduler

namespace Settings

variable {env : Environment} {s s' : Settings}

/-- What is read as the base of the subjects is one. -/
theorem exists_isBaseOf (h : ofEnvironment env = .ok s) :
    ∃ tokens, IsBaseOf tokens s.subjectBase := by
  obtain ⟨hvalid, -, hs⟩ := isReadFrom_of_ofEnvironment h
  have hsubject := hvalid ("NATS_SUBJECT_PREFIX", .subject) (by simp [Environment.demands])
  cases hbase : s.subjectBase with
  | none => exact ⟨[], rfl⟩
  | some base =>
    obtain ⟨hget, hne⟩ := Environment.nonEmpty?_eq_some_iff.mp (hs.subjectBase.symm.trans hbase)
    exact hsubject base hget hne

end Settings

/-! ## Messages -/

theorem Course.base_of (catalog : Catalog) (interval : Interval) (broken : List Part)
    (base : Option Text) (moves : List Move) :
    (of catalog interval broken base moves).base = base :=
  run_induction (P := fun c => c.base = base) (fun h hstep => hstep.base_eq.trans h) rfl moves

namespace Extractor

variable {around : Surroundings} {s : Settings} {first : Nat} {raised : Option Text}
  {e : Extractor} {p : Probe}

/-- A message is about a call and on its subject. -/
theorem Reachable.exists_tells (h : Reachable around s first raised e)
    (hfresh : around.broker.IsFresh) (hp : e.probe? = some p) {message : Message}
    (hmessage : message ∈ p.bus.delivered) : ∃ m, message.Tells s.subjectBase m := by
  obtain ⟨turns, c, hc, hfollows⟩ := h.exists_course hfresh hp
  obtain ⟨interval, moves, rfl⟩ := (Lifetime.isOwn_of s turns).exists_course c hc
  rw [← hfollows.delivered_eq] at hmessage
  obtain ⟨m, -, htells⟩ := (Course.concerns_of _ _ _ _ _).messages message hmessage
  rw [Course.base_of] at htells
  exact ⟨m, htells⟩

end Extractor

/-! ## The settings -/

/-- What the subjects are that a program with some settings uses. -/
structure Settings.SeparatesSubjects (s : Settings) : Prop where
  /-- They are dotted texts, and the last token is the name of the call. -/
  dotted : ∀ m : Method, ∃ tokens, (subjectOf s.subjectBase m.name).IsDotted
    (tokens ++ [(m.name : Text)])
  /-- There are no blanks in them, and nothing that stands for other tokens. -/
  plain : ∀ m : Method, ∀ u ∈ (subjectOf s.subjectBase m.name).units,
    Text.isBlankCode u.toNat = false ∧ u ≠ Text.unit '*' ∧ u ≠ Text.unit '>'
  /-- They are different from those of other calls, and from those below other bases. -/
  apart : ∀ env' s', ofEnvironment env' = .ok s' → ∀ m m' : Method,
    subjectOf s.subjectBase m.name = subjectOf s'.subjectBase m'.name →
    s.subjectBase = s'.subjectBase ∧ m = m'
  /-- If two programs have put messages on the same subject, they have the same base, and both
  messages are about the same call. -/
  messages : ∀ env' s', ofEnvironment env' = .ok s' →
    ∀ around first raised e p, Extractor.Reachable around s first raised e →
      around.broker.IsFresh → e.probe? = some p →
    ∀ around' first' raised' e' p', Extractor.Reachable around' s' first' raised' e' →
      around'.broker.IsFresh → e'.probe? = some p' →
    ∀ message ∈ p.bus.delivered, ∀ message' ∈ p'.bus.delivered,
      message.subject = message'.subject → s.subjectBase = s'.subjectBase ∧
        ∃ m, message.Tells s.subjectBase m ∧ message'.Tells s.subjectBase m

/-- **The subjects of accepted settings are dotted texts that end in the name of the call, and no
two calls and no two bases share one.** -/
theorem Settings.separatesSubjects {env : Environment} {s : Settings}
    (h : ofEnvironment env = .ok s) : s.SeparatesSubjects := by
  obtain ⟨tokens, hbase⟩ := exists_isBaseOf h
  have hapart (env' : Environment) (s' : Settings) (h' : ofEnvironment env' = .ok s')
      (m m' : Method) (heq : subjectOf s.subjectBase m.name = subjectOf s'.subjectBase m'.name) :
      s.subjectBase = s'.subjectBase ∧ m = m' := by
    obtain ⟨tokens', hbase'⟩ := exists_isBaseOf h'
    exact eq_of_subjectOf_eq hbase hbase' heq
  refine ⟨fun m => ⟨tokens, isDotted_subjectOf hbase m⟩,
    fun m => (isDotted_subjectOf hbase m).plain, hapart, ?_⟩
  intro env' s' h' around first raised e p hreachable hfresh hp around' first' raised' e' p'
    hreachable' hfresh' hp' message hmessage message' hmessage' hsubject
  obtain ⟨m, htells⟩ := hreachable.exists_tells hfresh hp hmessage
  obtain ⟨m', htells'⟩ := hreachable'.exists_tells hfresh' hp' hmessage'
  have heq := htells.subject_eq.symm.trans (hsubject.trans htells'.subject_eq)
  obtain ⟨hsame, rfl⟩ := hapart env' s' h' m m' heq
  exact ⟨hsame, m, htells, hsame ▸ htells'⟩

/-- A cookie file, and a base that looks like a subject itself. -/
def Environment.withBase : Environment :=
  ⟨[("RPC_COOKIE_FILE", "c"), ("NATS_SUBJECT_PREFIX", "node.uptime")]⟩

theorem separatesSubjects_withBase : ∃ s, s.subjectBase = some ("node.uptime" : Text) ∧
    Settings.ofEnvironment .withBase = .ok s ∧ s.SeparatesSubjects := by
  obtain ⟨s, h⟩ : ∃ s, Settings.ofEnvironment .withBase = .ok s :=
    Settings.exists_of_isOk (by decide +kernel)
  refine ⟨s, ?_, h, Settings.separatesSubjects h⟩
  rw [(Settings.isReadFrom_of_ofEnvironment h).2.2.subjectBase]
  decide +kernel

end NodeProbe
