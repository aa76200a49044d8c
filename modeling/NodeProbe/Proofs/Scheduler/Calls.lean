import NodeProbe.Proofs.Scheduler.Books

/-!
# What the end of a call changes

When a call has come to an outcome, it is either over, and no longer among the calls under way, or
its result is to be published; `payload_fetched_eq_some_iff` tells when. When it has been published
or not, it is over in any case. Apart from that the books stay, and all that is asked of the world
are recordings and lines about this call, which depend on nothing but the broken parts of the
recorder.
-/

namespace NodeProbe.Scheduler

/-- Something is recorded about this call, but no skip, or a line about it is printed. -/
def Effect.IsReport (m : Method) (e : Effect) : Prop :=
  (∃ what, what ≠ .skip ∧ e = .record m what) ∨
    ∃ notice : Notice, notice.about = some m ∧ e = .print notice

namespace Effect.IsReport

variable {m : Method} {e : Effect}

theorem about_eq (h : e.IsReport m) : e.about = some m := by
  rcases h with ⟨what, -, rfl⟩ | ⟨notice, hnotice, rfl⟩
  · rfl
  · exact hnotice

theorem callee?_eq (h : e.IsReport m) : e.callee? = none := by
  rcases h with ⟨what, -, rfl⟩ | ⟨notice, -, rfl⟩ <;> rfl

theorem ne_call (h : e.IsReport m) (m' : Method) : e ≠ .call m' := by
  rintro rfl
  cases h.callee?_eq

theorem ne_skip (h : e.IsReport m) (m' : Method) : e ≠ .record m' .skip := by
  rintro rfl
  rcases h with ⟨what, hwhat, heq⟩ | ⟨notice, -, heq⟩
  · cases heq
    exact hwhat rfl
  · cases heq

end Effect.IsReport

theorem callees_of_reports {m : Method} {es : List Effect} (h : ∀ e ∈ es, e.IsReport m) :
    es.filterMap Effect.callee? = [] :=
  List.filterMap_eq_nil_iff.mpr fun e he => (h e he).callee?_eq

/-- The calls under way when one of them goes on to be published. -/
def promote (m : Method) (inFlight : List (Method × Stage)) : List (Method × Stage) :=
  inFlight.map fun (m', stage) => (m', if m' = m then .publishing else stage)

/-- The calls under way when one of them is over. -/
def dismiss (m : Method) (inFlight : List (Method × Stage)) : List (Method × Stage) :=
  inFlight.filter (·.1 ≠ m)

theorem promote_cons (m : Method) (entry : Method × Stage) (rest : List (Method × Stage)) :
    promote m (entry :: rest) =
      (entry.1, if entry.1 = m then .publishing else entry.2) :: promote m rest := rfl

@[simp] theorem map_fst_promote (m : Method) (inFlight : List (Method × Stage)) :
    (promote m inFlight).map (·.1) = inFlight.map (·.1) := by
  rw [promote, List.map_map]
  rfl

theorem dismiss_cons (m : Method) (entry : Method × Stage) (rest : List (Method × Stage)) :
    dismiss m (entry :: rest) =
      if entry.1 = m then dismiss m rest else entry :: dismiss m rest := by
  rw [dismiss, List.filter_cons]
  split <;> simp_all [dismiss]

variable (s : Scheduler) (m : Method)

@[simp] theorem signal_finish (fault : Option Fault) : (s.finish m fault).signal = s.signal := rfl

theorem books_abandon (thrown : Fault) :
    (s.abandon m thrown).1.books = { s.books with inFlight := dismiss m s.inFlight } := by
  unfold abandon
  split <;> rfl

@[simp] theorem signal_abandon (thrown : Fault) : (s.abandon m thrown).1.signal = s.signal := by
  unfold abandon
  split <;> rfl

theorem reports_abandon (thrown : Fault) : ∀ e ∈ (s.abandon m thrown).2, e.IsReport m := by
  intro e he
  unfold abandon at he
  split at he
  · rw [List.mem_singleton] at he
    exact .inr ⟨_, rfl, he⟩
  · simp at he

theorem abandon_congr (s s' : Scheduler) (thrown : Fault) :
    (s.abandon m thrown).2 = (s'.abandon m thrown).2 := by
  unfold abandon
  split <;> rfl

theorem recordOr_congr {s s' : Scheduler} (h : s.broken = s'.broken) (what : Metrics.Recording)
    (next : List Effect) : s.recordOr m what next = s'.recordOr m what next := by
  rw [recordOr, recordOr, h]

theorem reports_recordOr {what : Metrics.Recording} {next : List Effect} (hwhat : what ≠ .skip)
    (hnext : ∀ e ∈ next, e.IsReport m) : ∀ e ∈ s.recordOr m what next, e.IsReport m := by
  intro e he
  unfold recordOr at he
  rcases List.mem_cons.mp he with rfl | he
  · exact .inl ⟨what, hwhat, rfl⟩
  · split at he
    · rw [List.mem_singleton] at he
      exact .inr ⟨_, rfl, he⟩
    · exact hnext e he

/-! ## Outcomes -/

variable (result : Except Fault Outcome)

/-- The call succeeded with this payload, and its duration could be recorded. -/
def Publishes (broken : List Part) (result : Except Fault Outcome) (payload : Bytes) : Prop :=
  ∃ outcome, result = .ok outcome ∧ broken.contains .duration = false ∧
    outcome.verdict = .success payload

theorem payload_fetched_eq_some_iff {payload : Bytes} :
    (s.fetched m result).2.2 = some payload ↔ Publishes s.broken result payload := by
  unfold Publishes
  unfold fetched
  split
  · simp
  · split
    · simp_all
    · split <;> simp_all

theorem books_fetched :
    (s.fetched m result).1.books =
      { s.books with
        inFlight :=
          if (s.fetched m result).2.2.isSome then promote m s.inFlight
          else dismiss m s.inFlight } := by
  unfold fetched
  split
  · exact books_abandon s m _
  · split
    · rfl
    · split <;> rfl

@[simp] theorem broken_fetched : (s.fetched m result).1.broken = s.broken :=
  congrArg Books.broken (books_fetched s m result)

@[simp] theorem slots_fetched : (s.fetched m result).1.slots = s.slots :=
  congrArg Books.slots (books_fetched s m result)

@[simp] theorem ticks_fetched : (s.fetched m result).1.ticks = s.ticks :=
  congrArg Books.ticks (books_fetched s m result)

theorem inFlight_fetched :
    (s.fetched m result).1.inFlight =
      if (s.fetched m result).2.2.isSome then promote m s.inFlight else dismiss m s.inFlight :=
  congrArg Books.inFlight (books_fetched s m result)

@[simp] theorem signal_fetched : (s.fetched m result).1.signal = s.signal := by
  unfold fetched
  split
  · exact signal_abandon s m _
  · split
    · rfl
    · split <;> rfl

theorem reports_fetched : ∀ e ∈ (s.fetched m result).2.1, e.IsReport m := by
  unfold fetched
  split
  · exact reports_abandon s m _
  · split
    · exact reports_recordOr s m (by simp) (by simp)
    · split
      · refine reports_recordOr s m (by simp) (reports_recordOr s m (by simp) ?_)
        intro e he
        rw [List.mem_singleton] at he
        exact .inr ⟨_, rfl, he⟩
      · exact reports_recordOr s m (by simp) (by simp)

/-- What an outcome leads to while the recorder is whole. -/
theorem fetched_of_broken_eq_nil (h : s.broken = []) (outcome : Outcome) :
    (s.fetched m (.ok outcome)).2 =
      match outcome.verdict with
      | .failure kind message =>
        ([.record m (.duration outcome.elapsedMs), .record m .error,
          .print (.failed m kind outcome.elapsedMs message)], none)
      | .success payload => ([.record m (.duration outcome.elapsedMs)], some payload) := by
  simp only [fetched, recordOr, h]
  cases outcome.verdict <;> rfl

/-- What an outcome leads to depends on nothing but the broken parts of the recorder. -/
theorem fetched_congr {s s' : Scheduler} (h : s.broken = s'.broken) :
    (s.fetched m result).2 = (s'.fetched m result).2 := by
  cases result with
  | error fault => exact congrArg (·, none) (abandon_congr m s s' fault)
  | ok outcome =>
    simp only [fetched, recordOr_congr m h, h]
    split
    · rfl
    · split <;> rfl

/-! ## Publishing -/

variable (answer : Except Fault (Option PublishFault))

theorem books_published :
    (s.published m answer).1.books = { s.books with inFlight := dismiss m s.inFlight } := by
  unfold published
  split
  · exact books_abandon s m _
  · rfl
  · rfl

@[simp] theorem broken_published : (s.published m answer).1.broken = s.broken :=
  congrArg Books.broken (books_published s m answer)

@[simp] theorem slots_published : (s.published m answer).1.slots = s.slots :=
  congrArg Books.slots (books_published s m answer)

@[simp] theorem ticks_published : (s.published m answer).1.ticks = s.ticks :=
  congrArg Books.ticks (books_published s m answer)

theorem inFlight_published : (s.published m answer).1.inFlight = dismiss m s.inFlight :=
  congrArg Books.inFlight (books_published s m answer)

@[simp] theorem signal_published : (s.published m answer).1.signal = s.signal := by
  unfold published
  split
  · exact signal_abandon s m _
  · rfl
  · rfl

theorem reports_published : ∀ e ∈ (s.published m answer).2, e.IsReport m := by
  unfold published
  split
  · exact reports_abandon s m _
  · simp
  · refine reports_recordOr s m (by simp) ?_
    intro e he
    rw [List.mem_singleton] at he
    exact .inr ⟨_, rfl, he⟩

/-- What publishing leads to while the recorder is whole. -/
theorem published_of_broken_eq_nil (h : s.broken = []) (failure : Option PublishFault) :
    (s.published m (.ok failure)).2 =
      match failure with
      | none => []
      | some fault => [.record m .publishError, .print (.unpublished m fault.message)] := by
  cases failure with
  | none => rfl
  | some fault =>
    simp only [published, recordOr, h]
    rfl

theorem published_congr {s s' : Scheduler} (h : s.broken = s'.broken) :
    (s.published m answer).2 = (s'.published m answer).2 := by
  unfold published
  split
  · exact abandon_congr m s s' _
  · rfl
  · exact recordOr_congr m h _ _

end NodeProbe.Scheduler
