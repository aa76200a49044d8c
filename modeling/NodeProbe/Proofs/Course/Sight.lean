import NodeProbe.Proofs.Course.Account

/-!
# What a call sees of a course

A call sees the ticks, the raising of the signal, and what happens to its own extraction
(`Course.sights`). What concerns it in a course are its slot, its extraction, what has been asked of
the world about it, with the number of ticks at that time, and the messages on its subject
(`Course.look`). `look_run`: the latter follows from the former, whatever the other calls do, unless
the recorder throws at their skips.
-/

namespace NodeProbe

open Scheduler

/-- What a call can see of a move. -/
inductive Sight where
  | tick
  | raise
  /-- Its extraction comes to an outcome. -/
  | fetched (result : Except Fault Outcome) (time : Rat)
  /-- The bus answers its extraction. -/
  | published (answer : Except Fault (Option Fault))

/-- What concerns a call in a course. -/
@[ext] structure Look where
  raised : Bool
  /-- The number of ticks that counted. -/
  ticks : Nat
  slot : Option Slot
  extraction : Option Extraction
  /-- What was asked of the world about the call, with the number of ticks that had counted. -/
  story : List (Nat × Effect)
  /-- What is on its subject. -/
  messages : List Message

/-- The part of some episodes that is about a call. -/
def storyOf (m : Method) : List Episode → List (Nat × Effect)
  | [] => []
  | episode :: earlier =>
    (episode.effects.filter (·.about = some m)).map
        (((episode :: earlier).filterMap (·.beat?)).length, ·) ++ storyOf m earlier

namespace Look

/-- What becomes of a call at a tick that counts. -/
def ticked (look : Look) (m : Method) : Look :=
  let effects := look.slot.elim [] (·.effects look.extraction.isSome)
  { look with
    ticks := look.ticks + 1
    slot := look.slot.map (·.tick look.extraction.isSome)
    extraction :=
      look.extraction.or (if effects.any (Effect.calls m) then some (.fetching m) else none)
    story := effects.map (look.ticks + 1, ·) ++ look.story }

/-- What becomes of a call when its extraction has come to an outcome. -/
def fetched (look : Look) (s : Scheduler) (m : Method) (result : Except Fault Outcome)
    (time : Rat) : Look :=
  { look with
    extraction :=
      (s.fetched m result).2.2.map fun payload => .publishing m (Course.event m payload time)
    story := (s.fetched m result).2.1.map (look.ticks, ·) ++ look.story }

/-- What becomes of a call when its event has been published or not. -/
def published (look : Look) (s : Scheduler) (m : Method) (event : Event) (base : Option Text)
    (answer : Except Fault (Option Fault)) : Look :=
  let (bus, result) := event.offer base ⟨fun _ => none, look.messages⟩ answer
  { look with
    extraction := none
    story := (s.published m result).2.map (look.ticks, ·) ++ look.story
    messages := bus.delivered }

/-- What becomes of a call by what it sees. Of the scheduler only the broken parts of the recorder
matter. -/
def see (m : Method) (s : Scheduler) (base : Option Text) (look : Look) : Sight → Look
  | .tick => if look.raised then look else look.ticked m
  | .raise => { look with raised := true }
  | .fetched result time => look.fetched s m result time
  | .published answer =>
    match look.extraction with
    | some (.publishing _ event) => look.published s m event base answer
    | _ => look

end Look

namespace Course

/-- What concerns a call in a course. -/
def look (c : Course) (m : Method) : Look where
  raised := c.scheduler.signal.isRaised
  ticks := c.beats.length
  slot := c.scheduler.slots.find? (·.method = m)
  extraction := c.extractions.find? (·.method = m)
  story := storyOf m c.log
  messages := c.bus.delivered.filter (·.subject = subjectOf c.base m.name)

/-- What a call can see of a move in a course. -/
def sight (c : Course) (m : Method) : Move → Option Sight
  | .tick => some .tick
  | .resume _ => if c.scheduler.isRoused then some .tick else none
  | .raise _ _ => some .raise
  | .fetched number result time =>
    match c.extractions[number]? with
    | some (.fetching m') => if m' = m then some (.fetched result time) else none
    | _ => none
  | .published number answer =>
    match c.extractions[number]? with
    | some (.publishing m' _) => if m' = m then some (.published answer) else none
    | _ => none
  | _ => none

/-- What a call can see of some moves. -/
def sights (c : Course) (m : Method) : List Move → List Sight
  | [] => []
  | move :: moves => (c.sight m move).toList ++ (c.after move).sights m moves

/-- Nothing that other calls do gets in the way of this one: the recorder takes skips, or the call
is disabled. -/
def Undisturbed (c : Course) (m : Method) : Prop :=
  .skip ∉ c.scheduler.broken ∨
    ∀ slot ∈ c.scheduler.slots, slot.method = m → slot.spec.enabled = false

/-! ## One extraction among others -/

section Extractions

variable {xs : List Extraction} {x y : Extraction} {n : Nat} {m : Method}

theorem find?_method_cons :
    (x :: xs).find? (·.method = m) = if x.method = m then some x else xs.find? (·.method = m) := by
  rw [List.find?_cons]
  by_cases hm : x.method = m <;> simp [hm]

theorem find?_eraseIdx_of_ne (hget : xs[n]? = some x) (hne : x.method ≠ m) :
    (xs.eraseIdx n).find? (·.method = m) = xs.find? (·.method = m) := by
  induction xs generalizing n with
  | nil => rfl
  | cons first rest ih =>
    cases n with
    | zero =>
      rw [List.getElem?_cons_zero, Option.some.injEq] at hget
      rw [List.eraseIdx_cons_zero, find?_method_cons, hget, if_neg hne]
    | succ n =>
      rw [List.getElem?_cons_succ] at hget
      rw [List.eraseIdx_cons_succ, find?_method_cons, find?_method_cons, ih hget]

theorem find?_set_of_ne (hget : xs[n]? = some x) (hne : x.method ≠ m) (hy : y.method ≠ m) :
    (xs.set n y).find? (·.method = m) = xs.find? (·.method = m) := by
  induction xs generalizing n with
  | nil => rfl
  | cons first rest ih =>
    cases n with
    | zero =>
      rw [List.getElem?_cons_zero, Option.some.injEq] at hget
      rw [List.set_cons_zero, find?_method_cons, find?_method_cons, hget, if_neg hne, if_neg hy]
    | succ n =>
      rw [List.getElem?_cons_succ] at hget
      rw [List.set_cons_succ, find?_method_cons, find?_method_cons, ih hget]

theorem find?_eq_some_of_nodup {α : Type} {f : α → Method} {as : List α} {a : α}
    (hnodup : (as.map f).Nodup) (hmem : a ∈ as) (hm : f a = m) :
    as.find? (f · = m) = some a := by
  induction as with
  | nil => simp at hmem
  | cons first rest ih =>
    obtain ⟨hnotMem, hrest⟩ := List.nodup_cons.mp hnodup
    rw [List.find?_cons]
    rcases List.mem_cons.mp hmem with rfl | hmem
    · rw [decide_eq_true hm]
    · have hne : f first ≠ m := fun heq =>
        hnotMem (List.mem_map.mpr ⟨a, hmem, hm.trans heq.symm⟩)
      rw [decide_eq_false hne, ih hrest hmem]

end Extractions

variable {c : Course} {m : Method}

/-! ## One move -/

theorem filter_about_remarks {es : List Effect} (h : ∀ e ∈ es, e.IsRemark) :
    es.filter (·.about = some m) = [] := by
  rw [List.filter_eq_nil_iff]
  intro e he
  obtain ⟨notice, hnotice, rfl⟩ := h e he
  simp [Effect.about, hnotice]

theorem look_quietly {s : Scheduler} {es : List Effect} (hbooks : s.books = c.scheduler.books)
    (hraised : s.signal.isRaised = c.scheduler.signal.isRaised) (hremarks : ∀ e ∈ es, e.IsRemark) :
    (c.quietly s es).look m = c.look m := by
  have hslots : s.slots = c.scheduler.slots := congrArg Books.slots hbooks
  simp only [look, quietly, hraised, hslots, storyOf, Episode.effects,
    filter_about_remarks hremarks, List.map_nil, List.nil_append]
  rfl

/-- A call runs as long as it has an extraction. -/
theorem Sound.contains_running (h : c.Sound) :
    c.scheduler.running.contains m = (c.look m).extraction.isSome := by
  rw [h.running_eq, Bool.eq_iff_iff, List.contains_iff_mem, busy, List.mem_map]
  simp [look, List.find?_isSome]

theorem find?_map_fetching {ms : List Method} :
    (ms.map Extraction.fetching).find? (·.method = m) =
      if m ∈ ms then some (.fetching m) else none := by
  induction ms with
  | nil => rfl
  | cons first rest ih =>
    rw [List.map_cons, List.find?_cons, Extraction.method_fetching, ih]
    by_cases hm : first = m
    · simp [hm]
    · simp [hm, Ne.symm hm]

/-- A tick does to a call what the call can tell from its own slot and extraction. -/
theorem look_ticked (hsound : c.Sound) (hundisturbed : c.Undisturbed m) {s : Scheduler}
    (hopen : c.scheduler.isClosed = false) (hbooks : s.books = c.scheduler.tick.1.books)
    (hraised : s.signal.isRaised = c.scheduler.signal.isRaised) :
    (c.ticked s).look m = (c.look m).ticked m := by
  have hcond : c.scheduler.broken.contains .skip = false ∨
      ∀ slot ∈ c.scheduler.slots, slot.method = m → slot.spec.enabled = false :=
    hundisturbed.imp_left fun hskip => by simpa using hskip
  rw [tick_of_not_isClosed hopen] at hbooks
  have hslots : s.slots = c.scheduler.turns.slots := congrArg Books.slots hbooks
  have hshare : c.scheduler.turns.effects.filter (·.about = some m) =
      (c.look m).slot.elim [] (·.effects (c.look m).extraction.isSome) := by
    rw [← hsound.contains_running]
    exact filter_about_tickSlots hsound.distinct hcond
  have hfired : m ∈ c.scheduler.turns.fired ↔
      (c.scheduler.turns.effects.filter (·.about = some m)).any (Effect.calls m) = true := by
    rw [turns, ← tickSlots_callees, List.mem_filterMap, List.any_eq_true]
    constructor
    · rintro ⟨e, he, hcallee⟩
      obtain rfl : e = .call m := Effect.callee?_eq_some_iff.mp hcallee
      exact ⟨_, List.mem_filter.mpr ⟨he, decide_eq_true rfl⟩, decide_eq_true rfl⟩
    · rintro ⟨e, he, hcalls⟩
      obtain rfl := Effect.calls_eq_true_iff.mp hcalls
      exact ⟨_, (List.mem_filter.mp he).1, rfl⟩
  rw [ticked_of_not_isClosed hopen]
  ext1
  · exact hraised
  · rfl
  · rw [Look.ticked, ← hsound.contains_running]
    exact (congrArg _ hslots).trans (find?_tickSlots hcond)
  · rw [Look.ticked, ← hshare, look, List.find?_append, find?_map_fetching]
    exact congrArg (Option.or _) (if_congr hfired rfl rfl)
  · rw [Look.ticked, ← hshare]
    rfl
  · rfl

theorem filter_about_reports {m' : Method} {es : List Effect} (h : ∀ e ∈ es, e.IsReport m') :
    es.filter (·.about = some m) = if m' = m then es else [] := by
  split
  · rename_i heq
    rw [List.filter_eq_self]
    intro e he
    exact decide_eq_true ((h e he).about_eq.trans (congrArg some heq))
  · rename_i hne
    rw [List.filter_eq_nil_iff]
    intro e he
    rw [(h e he).about_eq, decide_eq_true_eq, Option.some.injEq]
    exact hne

theorem look_fetched_of_ne {number : Nat} {m' : Method} {result : Except Fault Outcome}
    {time : Rat} (hget : c.extractions[number]? = some (.fetching m')) (hne : m' ≠ m) :
    (c.fetched number m' result time).look m = c.look m := by
  have heffects := filter_about_reports (m := m) (reports_fetched c.scheduler m' result)
  rw [if_neg hne] at heffects
  cases hpayload : (c.scheduler.fetched m' result).2.2 with
  | none =>
    rw [fetched_of_payload_eq_none hpayload]
    simp only [look, signal_fetched, slots_fetched, storyOf, Episode.effects, heffects,
      List.map_nil, List.nil_append, find?_eraseIdx_of_ne hget hne]
    rfl
  | some payload =>
    rw [fetched_of_payload_eq_some hpayload]
    have hset := find?_set_of_ne (y := .publishing m' (event m' payload time)) hget hne hne
    simp only [look, signal_fetched, slots_fetched, storyOf, Episode.effects, heffects,
      List.map_nil, List.nil_append, hset]
    rfl

/-- An outcome does to its call what the call can tell from the outcome. -/
theorem look_fetched (hsound : c.Sound) {s : Scheduler} (hs : s.broken = c.scheduler.broken)
    {number : Nat} {result : Except Fault Outcome} {time : Rat}
    (hget : c.extractions[number]? = some (.fetching m)) :
    (c.fetched number m result time).look m = (c.look m).fetched s m result time := by
  have heffects := filter_about_reports (m := m) (reports_fetched c.scheduler m result)
  rw [if_pos rfl] at heffects
  have hstep := hsound.step (.fetched result time hget)
  rw [Look.fetched, fetched_congr m result hs]
  cases hpayload : (c.scheduler.fetched m result).2.2 with
  | none =>
    rw [fetched_of_payload_eq_none hpayload]
    have herase : (c.extractions.eraseIdx number).find? (·.method = m) = none := by
      have hnotMem := notMem_map_method_eraseIdx (m := m) hsound.nodup hget rfl
      simpa using hnotMem
    simp only [look, signal_fetched, slots_fetched, storyOf, Episode.effects, heffects, herase]
    rfl
  | some payload =>
    rw [fetched_of_payload_eq_some hpayload] at hstep ⊢
    have hmem : Extraction.publishing m (event m payload time) ∈
        c.extractions.set number (.publishing m (event m payload time)) :=
      List.mem_set (List.getElem?_eq_some_iff.mp hget).1 _
    have hset := find?_eq_some_of_nodup (m := m) hstep.nodup hmem rfl
    simp only [look, signal_fetched, slots_fetched, storyOf, Episode.effects, heffects]
    rw [hset]
    rfl

section Published

variable {number : Nat} {m' : Method} {event : Event} {answer : Except Fault (Option Fault)}

theorem look_published_of_ne (hget : c.extractions[number]? = some (.publishing m' event))
    (hevent : event.method = m'.name) (hne : m' ≠ m) :
    (c.published number m' event answer).look m = c.look m := by
  have heffects := filter_about_reports (m := m)
    (reports_published c.scheduler m' (event.offer c.base c.bus answer).2)
  rw [if_neg hne] at heffects
  have hsubject : subjectOf c.base event.method ≠ subjectOf c.base m.name := by
    rw [hevent]
    exact fun heq => hne (subjectOf_inj heq)
  ext1
  · exact congrArg Signal.isRaised (signal_published _ _ _)
  · rfl
  · exact congrArg (List.find? _) (slots_published _ _ _)
  · exact find?_eraseIdx_of_ne hget hne
  · simp only [look, published, storyOf, Episode.effects, heffects]
    rfl
  · exact Event.filter_offer_of_ne hsubject

/-- The answer of the bus does to a call what the call can tell from the answer. -/
theorem look_published (hsound : c.Sound) {s : Scheduler} (hs : s.broken = c.scheduler.broken)
    (hget : c.extractions[number]? = some (.publishing m event)) (hevent : event.method = m.name) :
    (c.published number m event answer).look m =
      (c.look m).published s m event c.base answer := by
  have heffects := filter_about_reports (m := m)
    (reports_published c.scheduler m (event.offer c.base c.bus answer).2)
  rw [if_pos rfl] at heffects
  have herase : (c.extractions.eraseIdx number).find? (·.method = m) = none := by
    have hnotMem := notMem_map_method_eraseIdx (m := m) hsound.nodup hget rfl
    simpa using hnotMem
  have hdelivered : (⟨fun _ => none, (c.look m).messages⟩ : Bus).delivered =
      c.bus.delivered.filter (·.subject = subjectOf c.base event.method) := by
    rw [look, hevent]
  obtain ⟨hmessages, hresult⟩ := event.filter_offer c.base answer hdelivered
  rw [hevent] at hmessages
  simp only [Look.published, ← hresult, published_congr m _ hs]
  ext1
  · exact congrArg Signal.isRaised (signal_published _ _ _)
  · rfl
  · exact congrArg (List.find? _) (slots_published _ _ _)
  · exact herase
  · simp only [look, published, storyOf, Episode.effects, heffects]
    rfl
  · exact hmessages

end Published

/-! ## Any move -/

/-- The course is in order, and nothing gets in the way of the call. -/
structure Ready (c : Course) (m : Method) : Prop where
  sound : c.Sound
  orderly : c.scheduler.Orderly
  named : c.Named
  undisturbed : c.Undisturbed m

theorem Undisturbed.step {c' : Course} (h : c.Undisturbed m) (hstep : Step c c') :
    c'.Undisturbed m := by
  rw [Undisturbed, hstep.broken_eq]
  refine h.imp_right fun hdisabled slot' hslot' heq => ?_
  have hspec : slot'.spec ∈ c'.scheduler.slots.map (·.spec) := List.mem_map.mpr ⟨slot', hslot', rfl⟩
  rw [hstep.specs_eq] at hspec
  obtain ⟨slot, hslot, hspec⟩ := List.mem_map.mp hspec
  rw [← hspec]
  exact hdisabled slot hslot (by rw [Slot.method, hspec]; exact heq)

theorem Ready.after (h : c.Ready m) (move : Move) : (c.after move).Ready m where
  sound := after_induction Sound.step h.sound move
  orderly := orderly_after h.orderly move
  named := after_induction Named.step h.named move
  undisturbed := after_induction (P := (·.Undisturbed m)) Undisturbed.step h.undisturbed move

theorem base_after (move : Move) : (c.after move).base = c.base :=
  after_induction (P := (·.base = c.base)) (fun h hstep => hstep.base_eq.trans h) rfl move

theorem broken_after (move : Move) : (c.after move).scheduler.broken = c.scheduler.broken :=
  after_induction (P := (·.scheduler.broken = c.scheduler.broken))
    (fun h hstep => hstep.broken_eq.trans h) rfl move

/-- A tick does to a call what the call can tell, whether it counts or not. -/
theorem Ready.look_ticked (h : c.Ready m) {s : Scheduler}
    (hbooks : s.books = c.scheduler.tick.1.books)
    (hraised : s.signal.isRaised = c.scheduler.signal.isRaised) :
    (c.ticked s).look m = if (c.look m).raised then c.look m else (c.look m).ticked m := by
  have hclosed := h.orderly.isClosed_eq
  cases hraised' : c.scheduler.signal.isRaised with
  | true =>
    rw [hraised'] at hclosed
    rw [if_pos (by exact hraised'), ticked_of_isClosed hclosed]
    rw [tick_of_isClosed hclosed] at hbooks
    exact look_quietly hbooks hraised (by simp)
  | false =>
    rw [hraised'] at hclosed
    rw [if_neg (by rw [look, hraised']; exact Bool.false_ne_true)]
    exact Course.look_ticked h.sound h.undisturbed hclosed hbooks hraised

/-- A move does to a call what the call can tell from what it sees of it. -/
theorem Ready.look_after (h : c.Ready m) {s : Scheduler} (hs : s.broken = c.scheduler.broken)
    (move : Move) :
    (c.after move).look m =
      (c.sight m move).elim (c.look m) (Look.see m s c.base (c.look m)) := by
  cases move with
  | tick => exact h.look_ticked rfl (congrArg _ (signal_tick _))
  | run clock =>
    simp only [Course.after]
    split
    · rename_i hrun
      obtain ⟨-, rfl, hremarks⟩ := run_eq_ok hrun
      exact look_quietly (books_continueLoop _ _ _) (isRaised_continueLoop _ _ _) hremarks
    · rfl
  | resume clock =>
    have hgoOn : ∀ c' : Course,
        (c'.quietly (c'.scheduler.goOn clock).2.1 (c'.scheduler.goOn clock).2.2).look m =
          c'.look m :=
      fun c' => look_quietly (books_goOn _ clock) (isRaised_goOn _ clock) (remarks_goOn _ clock)
    simp only [Course.after, resume, sight]
    rw [hgoOn]
    cases hroused : c.scheduler.isRoused with
    | true =>
      obtain ⟨deadline, hwake⟩ := wake_of_isRoused hroused
      rw [if_pos rfl, if_pos rfl, hwake]
      exact h.look_ticked (books_beat _ _) (congrArg _ (signal_beat _ _))
    | false =>
      rw [if_neg Bool.false_ne_true, if_neg Bool.false_ne_true]
      rcases wake_of_not_isRoused hroused with hwake | hwake
      · rw [hwake]
        exact look_quietly (books_windDown _) rfl (remarks_windDown _)
      · rw [hwake]
        exact look_quietly rfl rfl (by simp)
  | stop => exact look_quietly (books_stop _) (congrArg _ (signal_stop _)) (remarks_stop _)
  | drain => exact look_quietly (books_drain _) rfl (by simp)
  | raise reason time =>
    simp only [Course.after, sight, Option.elim_some, Look.see, look, quietly,
      Signal.isRaised_raise]
    rfl
  | ring alarm time => exact look_quietly rfl (Signal.isRaised_ring _ _ _) (by simp)
  | fetched number result time =>
    cases hget : c.extractions[number]? with
    | none =>
      simp only [Course.after, sight, hget]
      rfl
    | some x =>
      cases x with
      | publishing m' event =>
        simp only [Course.after, sight, hget]
        rfl
      | fetching m' =>
        simp only [Course.after, sight, hget]
        by_cases hm : m' = m
        · subst hm
          rw [if_pos rfl]
          exact look_fetched h.sound hs hget
        · rw [if_neg hm]
          exact look_fetched_of_ne hget hm
  | published number answer =>
    cases hget : c.extractions[number]? with
    | none =>
      simp only [Course.after, sight, hget]
      rfl
    | some x =>
      cases x with
      | fetching m' =>
        simp only [Course.after, sight, hget]
        rfl
      | publishing m' event =>
        simp only [Course.after, sight, hget]
        have hevent := h.named m' event (List.mem_of_getElem? hget)
        by_cases hm : m' = m
        · subst hm
          have hextraction : (c.look m').extraction = some (.publishing m' event) :=
            find?_eq_some_of_nodup h.sound.nodup (List.mem_of_getElem? hget) rfl
          rw [if_pos rfl, Option.elim_some, Look.see, hextraction]
          exact look_published h.sound hs hget hevent
        · rw [if_neg hm]
          exact look_published_of_ne hget hevent hm

/-- **A call sees no more than its own.** What concerns it follows from what it has seen. -/
theorem Ready.look_run (h : c.Ready m) {s : Scheduler} (hs : s.broken = c.scheduler.broken)
    (moves : List Move) :
    (c.run moves).look m = (c.sights m moves).foldl (Look.see m s c.base) (c.look m) := by
  induction moves generalizing c with
  | nil => rfl
  | cons move moves ih =>
    have hrest := ih (h.after move) (hs.trans (broken_after move).symm)
    rw [base_after, h.look_after hs move] at hrest
    rw [sights, List.foldl_append]
    refine hrest.trans ?_
    cases c.sight m move <;> rfl

end Course

end NodeProbe
