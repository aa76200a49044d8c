import Mathlib.Data.List.Nodup
import NodeProbe.Proofs.Course.Basic

/-!
# No two extractions of one call

In every course the calls under way that the scheduler keeps are the extractions that have not
ended, in the same order and as far as they are (`Sound.inFlight_eq`), and no two of them are of the
same call (`Sound.nodup`). The invariant rests on the entries of the catalog being distinct: a tick
makes only calls that are not under way, each at most once, and the end of an extraction dismisses
by name what the extraction was begun under.
-/

namespace NodeProbe

open Scheduler

/-! ## Extractions and calls under way -/

section Entries

/-- How an extraction stands among the calls under way. -/
def Extraction.entry (x : Extraction) : Method × Stage :=
  (x.method, x.stage)

@[simp] theorem Extraction.entry_fst (x : Extraction) : x.entry.1 = x.method := rfl

@[simp] theorem Extraction.entry_fetching (m : Method) : (fetching m).entry = (m, .fetching) := rfl

@[simp] theorem Extraction.entry_publishing (m : Method) (event : Event) :
    (publishing m event).entry = (m, .publishing) := rfl

variable {xs : List Extraction} {x : Extraction} {number : Nat} {m : Method}

/-- Among other calls there is nothing to promote. -/
theorem promote_entries_of_notMem (h : m ∉ xs.map (·.method)) :
    promote m (xs.map (·.entry)) = xs.map (·.entry) := by
  rw [promote, List.map_map]
  refine List.map_congr_left fun x hx => ?_
  have hne : x.method ≠ m := fun heq => h (List.mem_map.mpr ⟨x, hx, heq⟩)
  simp [Extraction.entry, hne]

theorem promote_entries (hnodup : (xs.map (·.method)).Nodup) (hget : xs[number]? = some x)
    (hm : x.method = m) (event : Event) :
    promote m (xs.map (·.entry)) = (xs.set number (.publishing m event)).map (·.entry) := by
  subst hm
  induction xs generalizing number with
  | nil => simp at hget
  | cons y ys ih =>
    obtain ⟨hnotMem, hnodup⟩ := List.nodup_cons.mp hnodup
    rw [List.map_cons, promote_cons, Extraction.entry_fst]
    cases number with
    | zero =>
      rw [List.getElem?_cons_zero, Option.some.injEq] at hget
      subst hget
      rw [promote_entries_of_notMem hnotMem, if_pos rfl]
      rfl
    | succ number =>
      rw [List.getElem?_cons_succ] at hget
      have hne : y.method ≠ x.method := fun heq =>
        hnotMem (List.mem_map.mpr ⟨x, List.mem_of_getElem? hget, heq.symm⟩)
      rw [if_neg hne, ih hnodup hget]
      rfl

/-- Among other calls there is nothing to dismiss. -/
theorem dismiss_entries_of_notMem (h : m ∉ xs.map (·.method)) :
    dismiss m (xs.map (·.entry)) = xs.map (·.entry) := by
  rw [dismiss, List.filter_eq_self]
  intro entry hentry
  obtain ⟨x, hx, rfl⟩ := List.mem_map.mp hentry
  exact decide_eq_true fun heq => h (List.mem_map.mpr ⟨x, hx, heq⟩)

theorem dismiss_entries (hnodup : (xs.map (·.method)).Nodup) (hget : xs[number]? = some x)
    (hm : x.method = m) :
    dismiss m (xs.map (·.entry)) = (xs.eraseIdx number).map (·.entry) := by
  subst hm
  induction xs generalizing number with
  | nil => simp at hget
  | cons y ys ih =>
    obtain ⟨hnotMem, hnodup⟩ := List.nodup_cons.mp hnodup
    rw [List.map_cons, dismiss_cons, Extraction.entry_fst]
    cases number with
    | zero =>
      rw [List.getElem?_cons_zero, Option.some.injEq] at hget
      subst hget
      rw [dismiss_entries_of_notMem hnotMem, if_pos rfl]
      rfl
    | succ number =>
      rw [List.getElem?_cons_succ] at hget
      have hne : y.method ≠ x.method := fun heq =>
        hnotMem (List.mem_map.mpr ⟨x, List.mem_of_getElem? hget, heq.symm⟩)
      rw [if_neg hne, ih hnodup hget]
      rfl

/-- An extraction that goes on to be published stays one of its call. -/
theorem map_method_set (hnodup : (xs.map (·.method)).Nodup) (hget : xs[number]? = some x)
    (hm : x.method = m) (event : Event) :
    (xs.set number (.publishing m event)).map (·.method) = xs.map (·.method) := by
  have hfst := congrArg (List.map (·.1)) (promote_entries hnodup hget hm event)
  rw [map_fst_promote, List.map_map, List.map_map] at hfst
  exact hfst.symm

/-- An extraction that has ended was the only one of its call. -/
theorem notMem_map_method_eraseIdx (hnodup : (xs.map (·.method)).Nodup)
    (hget : xs[number]? = some x) (hm : x.method = m) :
    m ∉ (xs.eraseIdx number).map (·.method) := by
  intro hmem
  have hfst := congrArg (List.map (·.1)) (dismiss_entries hnodup hget hm)
  rw [List.map_map (l := xs.eraseIdx number)] at hfst
  rw [show (xs.eraseIdx number).map (·.method) = _ from hfst.symm] at hmem
  obtain ⟨entry, hentry, heq⟩ := List.mem_map.mp hmem
  exact of_decide_eq_true (List.mem_filter.mp hentry).2 heq

end Entries

namespace Course

/-! ## The invariant -/

/-- The scheduler knows of the extractions, and no two of them are of the same call. -/
structure Sound (c : Course) : Prop where
  distinct : (c.scheduler.slots.map (·.method)).Nodup
  inFlight_eq : c.scheduler.inFlight = c.extractions.map (·.entry)
  nodup : c.busy.Nodup

variable {c c' : Course}

theorem Sound.running_eq (h : c.Sound) : c.scheduler.running = c.busy := by
  rw [running, h.inFlight_eq, List.map_map]
  rfl

theorem sound_start (catalog : Catalog) (interval : Interval) (broken : List Part)
    (base : Option Text) : (start (fresh catalog interval broken) base).Sound where
  distinct := by
    rw [start, fresh, List.map_map]
    exact catalog.distinct
  inFlight_eq := rfl
  nodup := List.nodup_nil

/-- The calls that a tick makes are not under way, and each is made once. -/
theorem Sound.fired_nodup (h : c.Sound) : (c.busy ++ c.scheduler.turns.fired).Nodup := by
  have hfired : c.scheduler.turns.fired.Sublist _ := tickSlots_fired_sublist
  rw [List.nodup_append]
  refine ⟨h.nodup, ?_, ?_⟩
  · exact (h.distinct.sublist ((List.filter_sublist).map _)).sublist hfired
  · rintro m hbusy m' hm' rfl
    obtain ⟨slot, hslot, rfl⟩ := List.mem_map.mp (hfired.subset hm')
    have hfree := (List.mem_filter.mp hslot).2
    rw [h.running_eq, List.contains_iff_mem.mpr hbusy] at hfree
    simp at hfree

theorem distinct_of_specs_eq {s s' : Scheduler}
    (hspecs : s'.slots.map (·.spec) = s.slots.map (·.spec))
    (h : (s.slots.map (·.method)).Nodup) : (s'.slots.map (·.method)).Nodup := by
  have hmethods := congrArg (List.map (·.method)) hspecs
  rw [List.map_map, List.map_map] at hmethods
  exact (show s'.slots.map (·.method) = s.slots.map (·.method) from hmethods) ▸ h

theorem Sound.step (h : c.Sound) (hstep : Step c c') : c'.Sound := by
  suffices hcalls : c'.scheduler.inFlight = c'.extractions.map (·.entry) ∧ c'.busy.Nodup from
    ⟨distinct_of_specs_eq hstep.specs_eq h.distinct, hcalls.1, hcalls.2⟩
  cases hstep with
  | @quiet s effects hbooks _ =>
    have hflight : s.inFlight = c.scheduler.inFlight := congrArg Books.inFlight hbooks
    exact ⟨hflight.trans h.inFlight_eq, h.nodup⟩
  | @beat s hopen hbooks =>
    rw [tick_of_not_isClosed hopen] at hbooks
    have hflight : s.inFlight = _ := congrArg Books.inFlight hbooks
    rw [ticked_of_not_isClosed hopen]
    refine ⟨?_, ?_⟩
    · rw [hflight]
      simp only [books, h.inFlight_eq, List.map_append, List.map_map]
      rfl
    · rw [busy, List.map_append, List.map_map]
      rw [show Extraction.method ∘ Extraction.fetching = id from rfl, List.map_id]
      exact h.fired_nodup
  | @fetched number m result time hget =>
    have hflight := inFlight_fetched c.scheduler m result
    rw [h.inFlight_eq] at hflight
    cases hpayload : (c.scheduler.fetched m result).2.2 with
    | none =>
      rw [hpayload, Option.isSome_none, if_neg Bool.false_ne_true,
        dismiss_entries (m := m) h.nodup hget rfl] at hflight
      rw [fetched_of_payload_eq_none hpayload]
      exact ⟨hflight, h.nodup.sublist ((List.eraseIdx_sublist _ _).map _)⟩
    | some payload =>
      rw [hpayload, Option.isSome_some, if_pos rfl,
        promote_entries (m := m) h.nodup hget rfl (event m payload time)] at hflight
      rw [fetched_of_payload_eq_some hpayload]
      refine ⟨hflight, ?_⟩
      rw [busy, map_method_set (m := m) h.nodup hget rfl]
      exact h.nodup
  | @published number m event answer hget =>
    have hflight := inFlight_published c.scheduler m (event.offer c.base c.bus answer).2
    rw [h.inFlight_eq, dismiss_entries (m := m) h.nodup hget rfl] at hflight
    exact ⟨hflight, h.nodup.sublist ((List.eraseIdx_sublist _ _).map _)⟩

theorem sound_of (catalog : Catalog) (interval : Interval) (broken : List Part)
    (base : Option Text) (moves : List Move) : (of catalog interval broken base moves).Sound :=
  run_induction Sound.step (sound_start catalog interval broken base) moves

/-! ## What it says -/

/-- No two extractions of one call have not ended, the scheduler lists their calls, and no call
stays blocked when its extraction has ended. -/
structure NoOverlap (c : Course) : Prop where
  count_le_one : ∀ m, c.busy.count m ≤ 1
  mem_running_iff : ∀ m, m ∈ c.scheduler.running ↔ c.busy.count m = 1
  nodup_running : c.scheduler.running.Nodup
  /-- When a call has come to an outcome it stays only if its payload is to be published. -/
  mem_running_fetched_iff : ∀ {number m} (result : Except Fault Outcome) (time : Rat),
    c.extractions[number]? = some (.fetching m) →
      (m ∈ (c.after (.fetched number result time)).scheduler.running ↔
        ∃ payload, Publishes c.scheduler.broken result payload)
  /-- When an event has been published or not the call is gone. -/
  notMem_running_published : ∀ {number m event} (answer : Except Fault (Option Fault)),
    c.extractions[number]? = some (.publishing m event) →
      m ∉ (c.after (.published number answer)).scheduler.running
  /-- A call that is not listed is not skipped. -/
  not_skipped : ∀ m ∉ c.scheduler.running, .record m .skip ∉ c.scheduler.tick.2.1
  /-- A call that is due and not listed is made, unless the recorder throws at the skip of
  another. -/
  called : c.scheduler.isClosed = false → ∀ slot ∈ c.scheduler.slots, slot.IsDue →
    slot.method ∉ c.scheduler.running →
      .call slot.method ∈ c.scheduler.tick.2.1 ∨
        .skip ∈ c.scheduler.broken ∧
          ∃ m ∈ c.scheduler.running, .record m .skip ∈ c.scheduler.tick.2.1

/-- An extraction that is over is not listed any more. -/
theorem Sound.mem_running_fetched_iff (h : c.Sound) {number : Nat} {m : Method}
    (result : Except Fault Outcome) (time : Rat)
    (hget : c.extractions[number]? = some (.fetching m)) :
    m ∈ (c.fetched number m result time).scheduler.running ↔
      ∃ payload, Publishes c.scheduler.broken result payload := by
  rw [(h.step (.fetched result time hget)).running_eq]
  simp only [← payload_fetched_eq_some_iff c.scheduler m]
  cases hpayload : (c.scheduler.fetched m result).2.2 with
  | none =>
    rw [fetched_of_payload_eq_none hpayload]
    exact iff_of_false (notMem_map_method_eraseIdx h.nodup hget rfl) (by simp)
  | some payload =>
    rw [fetched_of_payload_eq_some hpayload, busy, map_method_set (m := m) h.nodup hget rfl]
    exact iff_of_true (List.mem_map.mpr ⟨_, List.mem_of_getElem? hget, rfl⟩) ⟨payload, rfl⟩

theorem Sound.noOverlap (h : c.Sound) : c.NoOverlap where
  count_le_one m := List.nodup_iff_count_le_one.mp h.nodup m
  mem_running_iff m := by
    rw [h.running_eq, ← List.count_pos_iff]
    have := List.nodup_iff_count_le_one.mp h.nodup m
    omega
  nodup_running := by
    rw [h.running_eq]
    exact h.nodup
  mem_running_fetched_iff result time hget := by
    simp only [after, hget]
    exact h.mem_running_fetched_iff result time hget
  notMem_running_published answer hget := by
    simp only [after, hget]
    rw [(h.step (.published answer hget)).running_eq]
    exact notMem_map_method_eraseIdx h.nodup hget rfl
  not_skipped m hfree hskip := by
    cases hclosed : c.scheduler.isClosed with
    | true => simp [tick_of_isClosed hclosed] at hskip
    | false =>
      rw [tick_of_not_isClosed hclosed] at hskip
      exact hfree (mem_running_of_skip hskip)
  called hopen slot hslot hdue hfree := by
    rw [tick_of_not_isClosed hopen]
    obtain hcall | ⟨hskip, hother⟩ := call_mem_of_isDue hslot hdue hfree
    · exact .inl hcall
    · exact .inr ⟨List.contains_iff_mem.mp hskip, hother⟩

/-- **No overlap.** In every course, whatever the calls came to and in whatever order, at most one
extraction of each call has not ended, the scheduler lists exactly these calls, each once, and a
call whose extraction has ended is free again. -/
theorem noOverlap_of (catalog : Catalog) (interval : Interval) (broken : List Part)
    (base : Option Text) (moves : List Move) : (of catalog interval broken base moves).NoOverlap :=
  (sound_of catalog interval broken base moves).noOverlap

end Course

end NodeProbe
