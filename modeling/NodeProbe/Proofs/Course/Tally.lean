import Mathlib.Algebra.GroupWithZero.Nat
import Mathlib.Data.List.Perm.Basic
import NodeProbe.Proofs.Course.Cadence

/-!
# Counting what happened

The numbers that a course leaves behind for a call: how often it was made, what was recorded about
it, how often it succeeded, how many messages are on its subject, and how many of its extractions
wait for something. Messages can be counted by their subject because the calls have different ones.
-/

namespace NodeProbe

open Scheduler

/-! ## Lists -/

section Lists

variable {α : Type} {p : α → Bool} {xs : List α} {x : α} {n : Nat}

theorem countP_eraseIdx_add (h : xs[n]? = some x) :
    (xs.eraseIdx n).countP p + (if p x then 1 else 0) = xs.countP p := by
  obtain ⟨hn, rfl⟩ := List.getElem?_eq_some_iff.mp h
  have hperm := (List.getElem_cons_eraseIdx_perm hn).countP_eq p
  rwa [List.countP_cons] at hperm

theorem countP_set_add (h : xs[n]? = some x) (y : α) :
    (xs.set n y).countP p + (if p x then 1 else 0) = xs.countP p + if p y then 1 else 0 := by
  have hperm := (List.set_perm_cons_eraseIdx (List.getElem?_eq_some_iff.mp h).1 y).countP_eq p
  have herase : (xs.eraseIdx n).countP p + (if p x then 1 else 0) = xs.countP p :=
    countP_eraseIdx_add h
  rw [List.countP_cons] at hperm
  omega

end Lists

/-! ## Numbers -/

/-- The call came to a success. -/
def Episode.succeeds (m : Method) : Episode → Bool
  | fetched m' (.ok outcome) _ => m' = m && outcome.verdict.isSuccess
  | _ => false

/-- The numbers about a call. -/
@[ext] structure Tally where
  /-- How often it was made. -/
  dispatches : Nat
  /-- How often its duration was recorded. -/
  durations : Nat
  /-- How often an error was recorded. -/
  errors : Nat
  /-- How often an error of publishing was recorded. -/
  publishErrors : Nat
  /-- How often a skip was recorded. -/
  skips : Nat
  /-- How often it came to a success. -/
  successes : Nat
  /-- The number of messages on its subject. -/
  messages : Nat
  /-- The number of its extractions that wait for an outcome. -/
  fetching : Nat
  /-- The number of its extractions that wait for the bus. -/
  publishing : Nat

namespace Course

/-- What has been asked of the world. -/
def effects (c : Course) : List Effect :=
  c.log.flatMap (·.effects)

/-- The numbers that a course has left behind about a call. -/
def tally (c : Course) (m : Method) : Tally where
  dispatches := c.effects.countP (Effect.calls m)
  durations := c.effects.countP (Effect.records m .duration)
  errors := c.effects.countP (Effect.records m .error)
  publishErrors := c.effects.countP (Effect.records m .publishError)
  skips := c.effects.countP (Effect.records m .skip)
  successes := c.log.countP (Episode.succeeds m)
  messages := c.bus.count (subjectOf c.base m.name)
  fetching := c.extractions.countP (·.entry = (m, .fetching))
  publishing := c.extractions.countP (·.entry = (m, .publishing))

variable {c : Course} {m : Method}

/-! ## Steps -/

theorem countP_remarks {es : List Effect} (h : ∀ e ∈ es, e.IsRemark) {p : Effect → Bool}
    (hp : ∀ e, p e = true → e.about = some m) : es.countP p = 0 := by
  rw [List.countP_eq_zero]
  intro e he hpe
  obtain ⟨notice, hnotice, rfl⟩ := h e he
  have := hp _ hpe
  rw [Effect.about, hnotice] at this
  cases this

theorem countP_reports {m' : Method} (hne : m' ≠ m) {es : List Effect}
    (h : ∀ e ∈ es, e.IsReport m') {p : Effect → Bool} (hp : ∀ e, p e = true → e.about = some m) :
    es.countP p = 0 := by
  rw [List.countP_eq_zero]
  intro e he hpe
  have := hp _ hpe
  rw [(h e he).about_eq, Option.some.injEq] at this
  exact hne this

theorem tally_quietly {s : Scheduler} {es : List Effect} (h : ∀ e ∈ es, e.IsRemark) :
    (c.quietly s es).tally m = c.tally m := by
  have hcalls := countP_remarks (m := m) h fun _ => Effect.about_of_calls
  have hrecords : ∀ part, es.countP (Effect.records m part) = 0 := fun part =>
    countP_remarks h fun _ => Effect.about_of_records
  simp only [tally, effects, quietly, List.flatMap_cons, Episode.effects, List.countP_append,
    hcalls, hrecords, Nat.zero_add]
  rfl

/-- The calls that a tick makes are waiting for their outcomes. -/
theorem tally_ticked {s : Scheduler} (hopen : c.scheduler.isClosed = false) :
    (c.ticked s).tally m =
      { c.tally m with
        dispatches :=
          (c.tally m).dispatches + c.scheduler.turns.effects.countP (Effect.calls m)
        skips := (c.tally m).skips + c.scheduler.turns.effects.countP (Effect.records m .skip)
        fetching :=
          (c.tally m).fetching + c.scheduler.turns.effects.countP (Effect.calls m) } := by
  have hrecords : ∀ part ≠ Part.skip,
      c.scheduler.turns.effects.countP (Effect.records m part) = 0 :=
    fun part hpart => countP_records_eq_zero m hpart
  have hfetching : (c.scheduler.turns.fired.map Extraction.fetching).countP
      (·.entry = (m, .fetching)) = c.scheduler.turns.effects.countP (Effect.calls m) := by
    rw [turns, ← tickSlots_callees, List.countP_map, List.countP_filterMap]
    refine List.countP_congr fun e _ => ?_
    cases e <;> simp [Effect.calls]
  have hpublishing : (c.scheduler.turns.fired.map Extraction.fetching).countP
      (·.entry = (m, .publishing)) = 0 := by
    simp [List.countP_map, Function.comp_def]
  rw [ticked_of_not_isClosed hopen]
  simp only [tally, effects, List.flatMap_cons, Episode.effects, List.countP_append,
    hfetching, hpublishing, hrecords .duration (by decide), hrecords .error (by decide),
    hrecords .publishError (by decide), Nat.zero_add, Nat.add_zero]
  ext <;> first | exact Nat.add_comm _ _ | rfl

/-- What becomes of the extractions of another call does not matter. -/
theorem countP_entry_of_ne {xs : List Extraction} {n : Nat} {x : Extraction} (stage : Stage)
    (hget : xs[n]? = some x) (hne : x.method ≠ m) :
    (xs.eraseIdx n).countP (·.entry = (m, stage)) = xs.countP (·.entry = (m, stage)) ∧
      ∀ y : Extraction, y.method ≠ m →
        (xs.set n y).countP (·.entry = (m, stage)) = xs.countP (·.entry = (m, stage)) := by
  have herase := countP_eraseIdx_add (p := fun y => decide (y.entry = (m, stage))) hget
  have hset := countP_set_add (p := fun y => decide (y.entry = (m, stage))) hget
  simp only [Extraction.entry, Prod.mk.injEq, hne, false_and, decide_false, Bool.false_eq_true,
    if_false, Nat.add_zero] at herase hset ⊢
  refine ⟨herase, fun y hy => ?_⟩
  rw [hset y]
  simp [hy]

theorem tally_fetched_of_ne {number : Nat} {m' : Method} {result : Except Fault Outcome}
    {time : Rat} (hget : c.extractions[number]? = some (.fetching m')) (hne : m' ≠ m) :
    (c.fetched number m' result time).tally m = c.tally m := by
  have hreports := reports_fetched c.scheduler m' result
  have hcalls := countP_reports hne hreports fun _ => Effect.about_of_calls
  have hrecords : ∀ part,
      (c.scheduler.fetched m' result).2.1.countP (Effect.records m part) = 0 := fun part =>
    countP_reports hne hreports fun _ => Effect.about_of_records
  have hsucceeds : (Episode.fetched m' result (c.scheduler.fetched m' result).2.1).succeeds m =
      false := by
    cases result <;> simp [Episode.succeeds, hne]
  have hwaiting := fun stage => countP_entry_of_ne (m := m) stage hget hne
  cases hpayload : (c.scheduler.fetched m' result).2.2 with
  | none =>
    rw [fetched_of_payload_eq_none hpayload]
    simp only [tally, effects, List.flatMap_cons, Episode.effects, List.countP_append, hcalls,
      hrecords, Nat.zero_add, List.countP_cons, hsucceeds, Bool.false_eq_true, if_false,
      Nat.add_zero, (hwaiting _).1]
  | some payload =>
    rw [fetched_of_payload_eq_some hpayload]
    simp only [tally, effects, List.flatMap_cons, Episode.effects, List.countP_append, hcalls,
      hrecords, Nat.zero_add, List.countP_cons, hsucceeds, Bool.false_eq_true, if_false,
      Nat.add_zero, (hwaiting _).2 (.publishing m' _) hne]

theorem tally_fetched_of_failure {number : Nat} {outcome : Outcome} {time : Rat}
    {kind : FailureKind} {message : Text} (hbroken : c.scheduler.broken = [])
    (hget : c.extractions[number]? = some (.fetching m))
    (hverdict : outcome.verdict = .failure kind message) :
    (c.fetched number m (.ok outcome) time).tally m =
      { c.tally m with
        durations := (c.tally m).durations + 1
        errors := (c.tally m).errors + 1
        fetching := (c.tally m).fetching - 1 } := by
  have hfetched := fetched_of_broken_eq_nil c.scheduler m hbroken outcome
  rw [hverdict] at hfetched
  have hwaiting := fun stage =>
    countP_eraseIdx_add (p := fun y => decide (y.entry = (m, stage))) hget
  rw [fetched_of_payload_eq_none (congrArg Prod.snd hfetched), hfetched]
  simp only [tally, effects, List.flatMap_cons, Episode.effects, ← hwaiting]
  ext <;> simp [Effect.calls, Effect.records, Part.of, Episode.succeeds, hverdict,
    Verdict.isSuccess, Nat.add_comm]

theorem tally_fetched_of_success {number : Nat} {outcome : Outcome} {time : Rat} {payload : Bytes}
    (hbroken : c.scheduler.broken = []) (hget : c.extractions[number]? = some (.fetching m))
    (hverdict : outcome.verdict = .success payload) :
    (c.fetched number m (.ok outcome) time).tally m =
      { c.tally m with
        durations := (c.tally m).durations + 1
        successes := (c.tally m).successes + 1
        fetching := (c.tally m).fetching - 1
        publishing := (c.tally m).publishing + 1 } := by
  have hfetched := fetched_of_broken_eq_nil c.scheduler m hbroken outcome
  rw [hverdict] at hfetched
  have hfetching := countP_set_add (p := fun y => decide (y.entry = (m, .fetching))) hget
    (.publishing m (event m payload time))
  have hpublishing := countP_set_add (p := fun y => decide (y.entry = (m, .publishing))) hget
    (.publishing m (event m payload time))
  rw [Extraction.entry_fetching, Extraction.entry_publishing] at hfetching hpublishing
  rw [if_pos (decide_eq_true rfl), if_neg (by simp)] at hfetching
  rw [if_neg (by simp), if_pos (decide_eq_true rfl)] at hpublishing
  rw [fetched_of_payload_eq_some (congrArg Prod.snd hfetched), hfetched]
  simp only [tally, effects, List.flatMap_cons, Episode.effects]
  ext
  case fetching => exact Nat.eq_sub_of_add_eq hfetching
  case publishing => exact hpublishing
  all_goals
    simp [Effect.calls, Effect.records, Part.of, Episode.succeeds, hverdict, Verdict.isSuccess,
      Nat.add_comm]

section Published

variable {number : Nat} {m' : Method} {event : Event} {answer : Except Fault (Option Fault)}

theorem tally_published_of_ne (hget : c.extractions[number]? = some (.publishing m' event))
    (hevent : event.method = m'.name) (hne : m' ≠ m) :
    (c.published number m' event answer).tally m = c.tally m := by
  have hreports := reports_published c.scheduler m' (event.offer c.base c.bus answer).2
  have hcalls := countP_reports hne hreports fun _ => Effect.about_of_calls
  have hrecords : ∀ part,
      (c.scheduler.published m' (event.offer c.base c.bus answer).2).2.countP
        (Effect.records m part) = 0 := fun part =>
    countP_reports hne hreports fun _ => Effect.about_of_records
  have hwaiting := fun stage => (countP_entry_of_ne (m := m) stage hget hne).1
  have hmessages : (event.offer c.base c.bus answer).1.count (subjectOf c.base m.name) =
      c.bus.count (subjectOf c.base m.name) := by
    by_cases hok : (event.offer c.base c.bus answer).2 = .ok none
    · have hsubject : subjectOf c.base m'.name ≠ subjectOf c.base m.name := fun heq =>
        hne (subjectOf_inj heq)
      rw [Event.count_offer_of_ok hok, hevent, if_neg hsubject, Nat.add_zero]
    · exact Event.count_offer_of_ne hok _
  simp only [tally, effects, published, List.flatMap_cons, Episode.effects, List.countP_append,
    hcalls, hrecords, Nat.zero_add, List.countP_cons, Episode.succeeds, Bool.false_eq_true,
    if_false, Nat.add_zero, hwaiting, hmessages]

theorem tally_published_of_ok (hget : c.extractions[number]? = some (.publishing m event))
    (hevent : event.method = m.name) (hok : (event.offer c.base c.bus answer).2 = .ok none) :
    (c.published number m event answer).tally m =
      { c.tally m with
        messages := (c.tally m).messages + 1
        publishing := (c.tally m).publishing - 1 } := by
  have hwaiting := fun stage =>
    countP_eraseIdx_add (p := fun y => decide (y.entry = (m, stage))) hget
  have hmessages := Event.count_offer_of_ok hok (subjectOf c.base m.name)
  rw [hevent, if_pos rfl] at hmessages
  simp only [tally, effects, published, hok, Scheduler.published, List.flatMap_cons,
    Episode.effects, List.nil_append, hmessages, ← hwaiting]
  ext <;> simp [Episode.succeeds]

theorem tally_published_of_failure {fault : PublishFault} (hbroken : c.scheduler.broken = [])
    (hget : c.extractions[number]? = some (.publishing m event))
    (hfailure : (event.offer c.base c.bus answer).2 = .ok (some fault)) :
    (c.published number m event answer).tally m =
      { c.tally m with
        publishErrors := (c.tally m).publishErrors + 1
        publishing := (c.tally m).publishing - 1 } := by
  have hwaiting := fun stage =>
    countP_eraseIdx_add (p := fun y => decide (y.entry = (m, stage))) hget
  have hne : (event.offer c.base c.bus answer).2 ≠ .ok none := by simp [hfailure]
  have hmessages := Event.count_offer_of_ne hne (subjectOf c.base m.name)
  have hpublished := published_of_broken_eq_nil c.scheduler m hbroken (some fault)
  simp only [tally, effects, published, hfailure, hpublished, List.flatMap_cons,
    Episode.effects, hmessages, ← hwaiting]
  ext <;> simp [Effect.calls, Effect.records, Part.of, Episode.succeeds, Nat.add_comm]

end Published

theorem fetching_pos {number : Nat} (hget : c.extractions[number]? = some (.fetching m)) :
    0 < (c.tally m).fetching :=
  List.countP_pos_iff.mpr ⟨_, List.mem_of_getElem? hget, decide_eq_true rfl⟩

theorem publishing_pos {number : Nat} {event : Event}
    (hget : c.extractions[number]? = some (.publishing m event)) : 0 < (c.tally m).publishing :=
  List.countP_pos_iff.mpr ⟨_, List.mem_of_getElem? hget, decide_eq_true rfl⟩

end Course

end NodeProbe
