import Mathlib.Data.List.Basic
import NodeProbe.Scheduler.Basic

/-!
# What a tick does to the slots

`tickSlots` goes through the slots in order. If nothing is thrown half way, each slot has its turn:
`tickSlots_eq_of_fault_eq_none` gives all four parts of the result slot by slot. What is thrown can
only come from a skip that a broken recorder refuses (`tickSlots_fault_eq_none_iff`). Whether or not
something is thrown, the entries of the slots stay, the calls that are made are the ones that are
answered, and none of them was running.
-/

namespace NodeProbe.Scheduler

/-! ## One slot -/

/-- The call that an effect makes. -/
def Effect.callee? : Effect → Option Method
  | call m => some m
  | _ => none

@[simp] theorem Effect.callee?_call (m : Method) : (call m).callee? = some m := rfl

@[simp] theorem Effect.callee?_record (m : Method) (what : Metrics.Recording) :
    (record m what).callee? = none := rfl

@[simp] theorem Effect.callee?_print (notice : Notice) : (print notice).callee? = none := rfl

/-- The call that an effect is about. -/
def Effect.about : Effect → Option Method
  | call m => some m
  | record m _ => some m
  | print notice => notice.about

/-- The effect makes this call. -/
def Effect.calls (m : Method) : Effect → Bool
  | call m' => m' = m
  | _ => false

/-- The effect records in one part of the recorder something about this call. -/
def Effect.records (m : Method) (part : Part) : Effect → Bool
  | record m' what => m' = m && Part.of what = part
  | _ => false

theorem Effect.callee?_eq_some_iff {m : Method} {e : Effect} :
    e.callee? = some m ↔ e = .call m := by
  cases e <;> simp

theorem Effect.calls_eq_true_iff {m : Method} {e : Effect} : e.calls m = true ↔ e = .call m := by
  cases e <;> simp [calls]

theorem Effect.records_skip_eq_true_iff {m : Method} {e : Effect} :
    e.records m .skip = true ↔ e = .record m .skip := by
  cases e with
  | record m' what => cases what <;> simp [records, Part.of]
  | _ => simp [records]

theorem Effect.about_of_calls {m : Method} {e : Effect} (h : e.calls m = true) :
    e.about = some m := by
  rw [calls_eq_true_iff.mp h]
  rfl

theorem Effect.about_of_records {m : Method} {part : Part} {e : Effect}
    (h : e.records m part = true) : e.about = some m := by
  cases e with
  | record m' what =>
    rw [records, Bool.and_eq_true, decide_eq_true_eq] at h
    exact congrArg some h.1
  | _ => cases h

namespace Slot

variable {slot : Slot} {isRunning : Bool}

/-- What a turn asks of the world. -/
def effects (slot : Slot) (isRunning : Bool) : List Effect :=
  match slot.turn isRunning with
  | .rest => []
  | .skip => [.record slot.method .skip, .print (.busy slot.method)]
  | .fire => [.call slot.method]

/-- The call is due at the next tick. -/
def IsDue (slot : Slot) : Prop :=
  slot.spec.enabled = true ∧ slot.spec.cadence ≤ slot.elapsed + 1

theorem turn_eq_fire_iff : slot.turn isRunning = .fire ↔ slot.IsDue ∧ isRunning = false := by
  unfold turn IsDue
  by_cases hearly : slot.elapsed + 1 < slot.spec.cadence <;> cases slot.spec.enabled <;>
    cases isRunning <;> simp [hearly]
  omega

theorem turn_eq_skip_iff : slot.turn isRunning = .skip ↔ slot.IsDue ∧ isRunning = true := by
  unfold turn IsDue
  by_cases hearly : slot.elapsed + 1 < slot.spec.cadence <;> cases slot.spec.enabled <;>
    cases isRunning <;> simp [hearly]
  omega

theorem turn_eq_rest_iff : slot.turn isRunning = .rest ↔ ¬ slot.IsDue := by
  unfold turn IsDue
  cases slot.spec.enabled <;> cases isRunning <;> simp

@[simp] theorem tick_spec : (slot.tick isRunning).spec = slot.spec := by
  unfold tick
  split
  · rfl
  · split <;> rfl

@[simp] theorem tick_method : (slot.tick isRunning).method = slot.method := by
  simp only [method, tick_spec]

theorem elapsed_tick (h : slot.spec.enabled = true) :
    (slot.tick isRunning).elapsed =
      match slot.turn isRunning with
      | .rest => slot.elapsed + 1
      | .skip => slot.spec.cadence
      | .fire => 0 := by
  unfold tick
  rw [h, Bool.not_true, if_neg Bool.false_ne_true]
  cases slot.turn isRunning <;> rfl

theorem tick_of_disabled (h : slot.spec.enabled = false) : slot.tick isRunning = slot := by
  rw [tick, h, Bool.not_false, if_pos rfl]

theorem about_of_mem_effects {e : Effect} (h : e ∈ slot.effects isRunning) :
    e.about = some slot.method := by
  unfold effects at h
  split at h
  · simp at h
  · rcases List.mem_cons.mp h with rfl | h
    · rfl
    · rw [List.mem_singleton] at h
      subst h
      rfl
  · rw [List.mem_singleton] at h
    subst h
    rfl

theorem filter_about_effects (m : Method) :
    (slot.effects isRunning).filter (·.about = some m) =
      if slot.method = m then slot.effects isRunning else [] := by
  split
  · rename_i heq
    rw [List.filter_eq_self]
    intro e he
    rw [about_of_mem_effects he, heq, decide_eq_true_eq]
  · rename_i hne
    rw [List.filter_eq_nil_iff]
    intro e he
    rw [about_of_mem_effects he, decide_eq_true_eq, Option.some.injEq]
    exact hne

theorem effects_of_disabled (h : slot.spec.enabled = false) : slot.effects isRunning = [] := by
  have hrest : slot.turn isRunning = .rest := turn_eq_rest_iff.mpr fun hdue => by
    rw [hdue.1] at h
    cases h
  rw [effects, hrest]

theorem call_mem_effects_iff {m : Method} :
    .call m ∈ slot.effects isRunning ↔ slot.method = m ∧ slot.turn isRunning = .fire := by
  unfold effects
  cases slot.turn isRunning <;> simp [eq_comm]

theorem skip_mem_effects_iff {m : Method} :
    .record m .skip ∈ slot.effects isRunning ↔ slot.method = m ∧ slot.turn isRunning = .skip := by
  unfold effects
  cases slot.turn isRunning <;> simp [eq_comm]

/-- A turn records nothing but skips. -/
theorem records_eq_false_of_mem_effects {e : Effect} (he : e ∈ slot.effects isRunning)
    (m : Method) {part : Part} (hpart : part ≠ .skip) : e.records m part = false := by
  unfold effects at he
  cases hturn : slot.turn isRunning with
  | rest => simp [hturn] at he
  | skip =>
    rw [hturn] at he
    rcases List.mem_cons.mp he with rfl | he
    · simp [Effect.records, Part.of, hpart.symm]
    · rw [List.mem_singleton.mp he]
      rfl
  | fire =>
    rw [hturn] at he
    rw [List.mem_singleton.mp he]
    rfl

theorem countP_calls_effects :
    (slot.effects isRunning).countP (Effect.calls slot.method) =
      if slot.turn isRunning = .fire then 1 else 0 := by
  unfold effects
  cases slot.turn isRunning <;> simp [Effect.calls]

theorem countP_records_skip_effects :
    (slot.effects isRunning).countP (Effect.records slot.method .skip) =
      if slot.turn isRunning = .skip then 1 else 0 := by
  unfold effects
  cases slot.turn isRunning <;> simp [Effect.records, Part.of]

end Slot

/-! ## All slots -/

section Slots

variable {skipBreaks : Bool} {running : List Method} {slot : Slot} {slots : List Slot}

theorem tickSlots_of_rest (h : slot.turn (running.contains slot.method) = .rest) :
    tickSlots skipBreaks running (slot :: slots) =
      let r := tickSlots skipBreaks running slots
      { r with slots := slot.tick (running.contains slot.method) :: r.slots } := by
  simp only [tickSlots, h]

theorem tickSlots_of_skip (h : slot.turn (running.contains slot.method) = .skip) :
    tickSlots false running (slot :: slots) =
      let r := tickSlots false running slots
      { r with
        slots := slot.tick (running.contains slot.method) :: r.slots
        effects := .record slot.method .skip :: .print (.busy slot.method) :: r.effects } := by
  simp only [tickSlots, h]
  rfl

/-- The slots behind a skip that is refused do not get their turn. -/
theorem tickSlots_of_refused_skip (h : slot.turn (running.contains slot.method) = .skip) :
    tickSlots true running (slot :: slots) =
      ⟨slot.tick (running.contains slot.method) :: slots, [.record slot.method .skip], [],
        some Part.skip.fault⟩ := by
  simp only [tickSlots, h]
  rfl

theorem tickSlots_of_fire (h : slot.turn (running.contains slot.method) = .fire) :
    tickSlots skipBreaks running (slot :: slots) =
      let r := tickSlots skipBreaks running slots
      { r with
        slots := slot.tick (running.contains slot.method) :: r.slots
        effects := .call slot.method :: r.effects
        fired := slot.method :: r.fired } := by
  simp only [tickSlots, h]

theorem tickSlots_fault_eq_none_iff :
    (tickSlots skipBreaks running slots).fault = none ↔
      skipBreaks = false ∨ ∀ slot ∈ slots, slot.turn (running.contains slot.method) ≠ .skip := by
  induction slots with
  | nil => simp [tickSlots]
  | cons slot rest ih =>
    rw [List.forall_mem_cons]
    cases hturn : slot.turn (running.contains slot.method) with
    | rest => simpa [tickSlots_of_rest hturn] using ih
    | skip =>
      cases skipBreaks with
      | false => simpa [tickSlots_of_skip hturn] using ih
      | true => simp [tickSlots_of_refused_skip hturn]
    | fire => simpa [tickSlots_of_fire hturn] using ih

/-- **A tick that throws nothing gives each slot its turn.** -/
theorem tickSlots_eq_of_fault_eq_none (h : (tickSlots skipBreaks running slots).fault = none) :
    tickSlots skipBreaks running slots =
      ⟨slots.map fun slot => slot.tick (running.contains slot.method),
        slots.flatMap fun slot => slot.effects (running.contains slot.method),
        (slots.filter fun slot => slot.turn (running.contains slot.method) = .fire).map (·.method),
        none⟩ := by
  induction slots with
  | nil => rfl
  | cons slot rest ih =>
    simp only [List.map_cons, List.flatMap_cons, List.filter_cons, Slot.effects]
    cases hturn : slot.turn (running.contains slot.method) with
    | rest =>
      rw [tickSlots_of_rest hturn] at h ⊢
      rw [ih h]
      rfl
    | skip =>
      cases skipBreaks with
      | false =>
        rw [tickSlots_of_skip hturn] at h ⊢
        rw [ih h]
        rfl
      | true =>
        rw [tickSlots_of_refused_skip hturn] at h
        cases h
    | fire =>
      rw [tickSlots_of_fire hturn] at h ⊢
      rw [ih h]
      rfl

/-- The entries of the slots stay as they are. -/
theorem tickSlots_specs :
    (tickSlots skipBreaks running slots).slots.map (·.spec) = slots.map (·.spec) := by
  induction slots with
  | nil => rfl
  | cons slot rest ih =>
    cases hturn : slot.turn (running.contains slot.method) with
    | rest => simp [tickSlots_of_rest hturn, ih]
    | skip =>
      cases skipBreaks with
      | false => simp [tickSlots_of_skip hturn, ih]
      | true => simp [tickSlots_of_refused_skip hturn]
    | fire => simp [tickSlots_of_fire hturn, ih]

/-- The calls that are made are the ones that are answered. -/
theorem tickSlots_callees :
    (tickSlots skipBreaks running slots).effects.filterMap Effect.callee? =
      (tickSlots skipBreaks running slots).fired := by
  induction slots with
  | nil => rfl
  | cons slot rest ih =>
    cases hturn : slot.turn (running.contains slot.method) with
    | rest => simp [tickSlots_of_rest hturn, ih]
    | skip =>
      cases skipBreaks with
      | false => simp [tickSlots_of_skip hturn, List.filterMap_cons, ih]
      | true => simp [tickSlots_of_refused_skip hturn]
    | fire => simp [tickSlots_of_fire hturn, ih]

/-- The turns of other slots ask nothing about a call. -/
theorem filter_about_turns_of_notMem {m : Method} (h : m ∉ slots.map (·.method)) :
    (slots.flatMap fun slot => slot.effects (running.contains slot.method)).filter
        (·.about = some m) = [] := by
  rw [List.filter_eq_nil_iff]
  intro e he
  obtain ⟨slot, hslot, he⟩ := List.mem_flatMap.mp he
  rw [Slot.about_of_mem_effects he, decide_eq_true_eq, Option.some.injEq]
  exact fun heq => h (List.mem_map.mpr ⟨slot, hslot, heq⟩)

/-- What the turns ask of the world about one call is what the turn of its slot asks. -/
theorem filter_about_turns (hnodup : (slots.map (·.method)).Nodup) (hmem : slot ∈ slots) :
    (slots.flatMap fun slot => slot.effects (running.contains slot.method)).filter
        (·.about = some slot.method) =
      slot.effects (running.contains slot.method) := by
  induction slots with
  | nil => simp at hmem
  | cons other rest ih =>
    obtain ⟨hnotMem, hrest⟩ := List.nodup_cons.mp hnodup
    rw [List.flatMap_cons, List.filter_append, Slot.filter_about_effects]
    rcases List.mem_cons.mp hmem with rfl | hmem
    · rw [if_pos rfl, filter_about_turns_of_notMem hnotMem, List.append_nil]
    · have hne : other.method ≠ slot.method := fun heq =>
        hnotMem (List.mem_map.mpr ⟨slot, hmem, heq.symm⟩)
      rw [if_neg hne, ih hrest hmem, List.nil_append]

/-- What is asked about a call can be counted in the turn of its slot. -/
theorem countP_turns (hnodup : (slots.map (·.method)).Nodup) (hmem : slot ∈ slots)
    {p : Effect → Bool} (hp : ∀ e, p e = true → e.about = some slot.method) :
    (slots.flatMap fun slot => slot.effects (running.contains slot.method)).countP p =
      (slot.effects (running.contains slot.method)).countP p := by
  rw [← filter_about_turns hnodup hmem, List.countP_filter]
  refine List.countP_congr fun e _ => ?_
  rw [Bool.and_eq_true, decide_eq_true_eq]
  exact (and_iff_left_of_imp (hp e)).symm

theorem countP_turns_of_notMem {m : Method} (h : m ∉ slots.map (·.method)) {p : Effect → Bool}
    (hp : ∀ e, p e = true → e.about = some m) :
    (slots.flatMap fun slot => slot.effects (running.contains slot.method)).countP p = 0 := by
  rw [List.countP_eq_zero]
  intro e he hpe
  have hnone := List.filter_eq_nil_iff.mp (filter_about_turns_of_notMem h) e he
  exact hnone (decide_eq_true (hp e hpe))

/-- Whatever is asked about a call can be looked for in the turn of its slot. -/
theorem mem_turns_iff (hnodup : (slots.map (·.method)).Nodup) (hmem : slot ∈ slots) {e : Effect}
    (habout : e.about = some slot.method) :
    e ∈ slots.flatMap (fun slot => slot.effects (running.contains slot.method)) ↔
      e ∈ slot.effects (running.contains slot.method) := by
  rw [← filter_about_turns hnodup hmem, List.mem_filter, decide_eq_true habout]
  exact (and_iff_left rfl).symm

/-- Only enabled calls that are not running are made, in the order of the slots. -/
theorem tickSlots_fired_sublist :
    (tickSlots skipBreaks running slots).fired.Sublist
      ((slots.filter fun slot => slot.spec.enabled && !running.contains slot.method).map
        (·.method)) := by
  induction slots with
  | nil => exact .slnil
  | cons slot rest ih =>
    have skipped := ih.trans (((List.sublist_cons_self slot rest).filter _).map _)
    cases hturn : slot.turn (running.contains slot.method) with
    | rest =>
      rw [tickSlots_of_rest hturn]
      exact skipped
    | skip =>
      cases skipBreaks with
      | false =>
        rw [tickSlots_of_skip hturn]
        exact skipped
      | true =>
        rw [tickSlots_of_refused_skip hturn]
        exact List.nil_sublist _
    | fire =>
      obtain ⟨hdue, hfree⟩ := Slot.turn_eq_fire_iff.mp hturn
      rw [tickSlots_of_fire hturn, List.filter_cons, if_pos (by rw [hdue.1, hfree]; rfl)]
      exact ih.cons_cons _

/-- What is asked of the world is the beginning of what the turns of the slots would ask. -/
theorem tickSlots_effects_begin :
    (tickSlots skipBreaks running slots).effects <+:
      slots.flatMap fun slot => slot.effects (running.contains slot.method) := by
  induction slots with
  | nil => exact List.nil_prefix
  | cons slot rest ih =>
    rw [List.flatMap_cons, Slot.effects]
    cases hturn : slot.turn (running.contains slot.method) with
    | rest =>
      rw [tickSlots_of_rest hturn]
      exact ih
    | skip =>
      cases skipBreaks with
      | false =>
        rw [tickSlots_of_skip hturn]
        exact (List.prefix_append_right_inj [_, _]).mpr ih
      | true =>
        rw [tickSlots_of_refused_skip hturn]
        exact (List.prefix_append [_] _)
    | fire =>
      rw [tickSlots_of_fire hturn]
      exact (List.prefix_append_right_inj [_]).mpr ih

theorem exists_slot_of_mem_effects {e : Effect}
    (h : e ∈ (tickSlots skipBreaks running slots).effects) :
    ∃ slot ∈ slots, e ∈ slot.effects (running.contains slot.method) :=
  List.mem_flatMap.mp (tickSlots_effects_begin.subset h)

/-- Only what is running is skipped. -/
theorem mem_running_of_skip {m : Method}
    (h : .record m .skip ∈ (tickSlots skipBreaks running slots).effects) : m ∈ running := by
  obtain ⟨slot, -, he⟩ := exists_slot_of_mem_effects h
  obtain ⟨rfl, hturn⟩ := Slot.skip_mem_effects_iff.mp he
  exact List.contains_iff_mem.mp (Slot.turn_eq_skip_iff.mp hturn).2

/-- What is thrown half way comes from a skip that was recorded. -/
theorem exists_skip_of_fault_ne_none (h : (tickSlots skipBreaks running slots).fault ≠ none) :
    ∃ slot ∈ slots, .record slot.method .skip ∈ (tickSlots skipBreaks running slots).effects := by
  induction slots with
  | nil => simp [tickSlots] at h
  | cons slot rest ih =>
    rw [List.exists_mem_cons_iff]
    cases hturn : slot.turn (running.contains slot.method) with
    | rest =>
      rw [tickSlots_of_rest hturn] at h ⊢
      exact .inr (ih h)
    | skip =>
      cases skipBreaks with
      | false =>
        rw [tickSlots_of_skip hturn]
        exact .inl List.mem_cons_self
      | true =>
        rw [tickSlots_of_refused_skip hturn]
        exact .inl List.mem_cons_self
    | fire =>
      rw [tickSlots_of_fire hturn] at h ⊢
      obtain ⟨other, hmem, he⟩ := ih h
      exact .inr ⟨other, hmem, List.mem_cons_of_mem _ he⟩

/-- A recorder that throws at a skip has the tick throw. -/
theorem not_skip_of_fault_eq_none (h : (tickSlots true running slots).fault = none) (m : Method) :
    .record m .skip ∉ (tickSlots true running slots).effects := by
  intro hskip
  rcases tickSlots_fault_eq_none_iff.mp h with hfalse | hturns
  · cases hfalse
  · obtain ⟨slot, hslot, he⟩ := exists_slot_of_mem_effects hskip
    exact hturns slot hslot (Slot.skip_mem_effects_iff.mp he).2

/-- A call that is due and not running is made, unless the recorder throws at the skip of
another. -/
theorem call_mem_of_isDue (hmem : slot ∈ slots) (hdue : slot.IsDue)
    (hfree : slot.method ∉ running) :
    .call slot.method ∈ (tickSlots skipBreaks running slots).effects ∨
      skipBreaks = true ∧
        ∃ m ∈ running, .record m .skip ∈ (tickSlots skipBreaks running slots).effects := by
  by_cases hfault : (tickSlots skipBreaks running slots).fault = none
  · left
    rw [tickSlots_eq_of_fault_eq_none hfault]
    refine List.mem_flatMap.mpr ⟨slot, hmem, Slot.call_mem_effects_iff.mpr ⟨rfl, ?_⟩⟩
    exact Slot.turn_eq_fire_iff.mpr ⟨hdue, by simpa using hfree⟩
  · right
    obtain ⟨other, -, hskip⟩ := exists_skip_of_fault_ne_none hfault
    rw [tickSlots_fault_eq_none_iff] at hfault
    push Not at hfault
    exact ⟨by simpa using hfault.1, other.method, mem_running_of_skip hskip, hskip⟩

theorem countP_tickSlots_le_one (hnodup : (slots.map (·.method)).Nodup) {m : Method}
    {p : Effect → Bool} (hp : ∀ e, p e = true → e.about = some m)
    (hone : ∀ (slot : Slot) isRunning, slot.method = m → (slot.effects isRunning).countP p ≤ 1) :
    (tickSlots skipBreaks running slots).effects.countP p ≤ 1 := by
  refine Nat.le_trans tickSlots_effects_begin.sublist.countP_le ?_
  by_cases h : m ∈ slots.map (·.method)
  · obtain ⟨slot, hslot, rfl⟩ := List.mem_map.mp h
    rw [countP_turns hnodup hslot hp]
    exact hone slot _ rfl
  · rw [countP_turns_of_notMem h hp]
    exact Nat.zero_le 1

theorem countP_records_eq_zero (m : Method) {part : Part} (hpart : part ≠ .skip) :
    (tickSlots skipBreaks running slots).effects.countP (Effect.records m part) = 0 := by
  rw [List.countP_eq_zero]
  intro e he
  obtain ⟨slot, -, he⟩ := exists_slot_of_mem_effects he
  rw [Slot.records_eq_false_of_mem_effects he m hpart]
  exact Bool.false_ne_true

/-- A call is made at most once. -/
theorem countP_calls_le_one (hnodup : (slots.map (·.method)).Nodup) (m : Method) :
    (tickSlots skipBreaks running slots).effects.countP (Effect.calls m) ≤ 1 := by
  refine countP_tickSlots_le_one hnodup (fun _ => Effect.about_of_calls) ?_
  rintro slot isRunning rfl
  rw [Slot.countP_calls_effects]
  split <;> omega

/-- A skip is recorded at most once. -/
theorem countP_records_skip_le_one (hnodup : (slots.map (·.method)).Nodup) (m : Method) :
    (tickSlots skipBreaks running slots).effects.countP (Effect.records m .skip) ≤ 1 := by
  refine countP_tickSlots_le_one hnodup (fun _ => Effect.about_of_records) ?_
  rintro slot isRunning rfl
  rw [Slot.countP_records_skip_effects]
  split <;> omega

/-! ## The share of one call -/

/-- What a tick does to the slot of a call, and what it asks of the world about the call, depends on
nothing but this slot, unless the recorder throws at the skip of another call. -/
theorem find?_tickSlots {m : Method} (h : skipBreaks = false ∨
      ∀ slot ∈ slots, slot.method = m → slot.spec.enabled = false) :
    (tickSlots skipBreaks running slots).slots.find? (·.method = m) =
      (slots.find? (·.method = m)).map (·.tick (running.contains m)) := by
  induction slots with
  | nil => rfl
  | cons slot rest ih =>
    have hrest := ih (h.imp_right fun hdisabled other hother =>
      hdisabled other (List.mem_cons_of_mem _ hother))
    by_cases hm : slot.method = m
    · subst hm
      have hhead : ∃ others, (tickSlots skipBreaks running (slot :: rest)).slots =
          slot.tick (running.contains slot.method) :: others := by
        cases hturn : slot.turn (running.contains slot.method) with
        | rest => exact ⟨_, by rw [tickSlots_of_rest hturn]⟩
        | skip =>
          cases skipBreaks with
          | false => exact ⟨_, by rw [tickSlots_of_skip hturn]⟩
          | true => exact ⟨_, by rw [tickSlots_of_refused_skip hturn]⟩
        | fire => exact ⟨_, by rw [tickSlots_of_fire hturn]⟩
      obtain ⟨others, hhead⟩ := hhead
      rw [hhead, List.find?_cons_of_pos (by simp), List.find?_cons_of_pos (by simp)]
      rfl
    · rw [List.find?_cons_of_neg (by simpa using hm), ← hrest]
      cases hturn : slot.turn (running.contains slot.method) with
      | rest => rw [tickSlots_of_rest hturn, List.find?_cons_of_neg (by simpa using hm)]
      | skip =>
        cases skipBreaks with
        | false => rw [tickSlots_of_skip hturn, List.find?_cons_of_neg (by simpa using hm)]
        | true =>
          rw [tickSlots_of_refused_skip hturn, List.find?_cons_of_neg (by simpa using hm), hrest]
          cases hfind : rest.find? (·.method = m) with
          | none => rfl
          | some other =>
            have hdisabled := (h.resolve_left (by simp)) other
              (List.mem_cons_of_mem _ (List.mem_of_find?_eq_some hfind))
              (by simpa using List.find?_some hfind)
            rw [Option.map_some, Slot.tick_of_disabled hdisabled]
      | fire => rw [tickSlots_of_fire hturn, List.find?_cons_of_neg (by simpa using hm)]

theorem filter_about_tickSlots {m : Method} (hnodup : (slots.map (·.method)).Nodup)
    (h : skipBreaks = false ∨ ∀ slot ∈ slots, slot.method = m → slot.spec.enabled = false) :
    (tickSlots skipBreaks running slots).effects.filter (·.about = some m) =
      (slots.find? (·.method = m)).elim [] (·.effects (running.contains m)) := by
  have hsublist : ((tickSlots skipBreaks running slots).effects.filter (·.about = some m)).Sublist
      ((slots.flatMap fun slot => slot.effects (running.contains slot.method)).filter
        (·.about = some m)) :=
    tickSlots_effects_begin.sublist.filter _
  cases hfind : slots.find? (·.method = m) with
  | none =>
    have hnotMem : m ∉ slots.map (·.method) := by
      simpa using hfind
    rw [filter_about_turns_of_notMem hnotMem] at hsublist
    exact List.sublist_nil.mp hsublist
  | some slot =>
    have hslot := List.mem_of_find?_eq_some hfind
    obtain rfl : slot.method = m := by simpa using List.find?_some hfind
    rw [Option.elim_some]
    rcases h with rfl | hdisabled
    · rw [tickSlots_eq_of_fault_eq_none (tickSlots_fault_eq_none_iff.mpr (.inl rfl)),
        filter_about_turns hnodup hslot]
    · rw [filter_about_turns hnodup hslot, Slot.effects_of_disabled (hdisabled slot hslot rfl)]
        at hsublist
      rw [Slot.effects_of_disabled (hdisabled slot hslot rfl)]
      exact List.sublist_nil.mp hsublist

end Slots

end NodeProbe.Scheduler
