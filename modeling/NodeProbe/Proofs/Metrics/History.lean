import NodeProbe.Proofs.Metrics.Access
import NodeProbe.Proofs.Metrics.Reading
import NodeProbe.Proofs.Metrics.Series

/-!
# The history of the calls

Whatever is recorded about calls and however often the registry is read in between, a read tells for
each call what has been recorded about it (`keepsHistory`). An instrument only sees what is about
its topic (`after_eq`), and of that a series only sees what is about its call
(`isFor_instrumentAfter`). So the history of a series is its own part of what was done, in its order
(`foldl_seriesUse_filter`), and along this part it keeps what was recorded (`keeps_foldl`).
-/

namespace NodeProbe.Metrics

open Decimal

/-! ## What is done -/

/-- Something is recorded about a call, the registry is read, or a request is answered, which reads
the registry if it is shown. -/
inductive Use where
  | noted (method : Method) (what : Recording)
  | read
  | asked (program : Text) (token : Option Text) (q : Inquiry)

/-- What the instruments are about. -/
inductive Topic where
  | duration
  | error
  | publishError
  | skip
  deriving DecidableEq

def Topic.name : Topic → Text
  | duration => "rpc_fetch_duration_seconds"
  | error => "rpc_fetch_errors_total"
  | publishError => "nats_publish_errors_total"
  | skip => "rpc_fetch_skipped_total"

def Topic.kind : Topic → Kind
  | duration => .histogram durationBoundaries
  | _ => .counter

def Recording.topic : Recording → Topic
  | duration _ => .duration
  | error => .error
  | publishError => .publishError
  | skip => .skip

/-- The registry is read. -/
def Use.reads : Use → Bool
  | noted .. => false
  | read => true
  | asked _ token q => (refusal? token q.authorization).isNone && q.asksForMetrics

/-- It is not about another call or another topic. -/
def Use.concerns (topic : Topic) (m : Method) : Use → Bool
  | noted m' what => m' = m && what.topic = topic
  | _ => true

/-- What is recorded under the topic about the call. -/
def Use.value? (topic : Topic) (m : Method) : Use → Option Float
  | noted m' what => if m' = m ∧ what.topic = topic then some what.value else none
  | _ => none

def Registry.use (r : Registry) : Use → Registry
  | .noted m what => r.note m.name what
  | .read =>
    match r.refresh with
    | .ok r => r
    | .error _ => r
  | .asked program token q => (r.respond program token q).1

/-- The registry of the probe after all this. -/
def after (base : Text) (uses : List Use) : Registry :=
  uses.foldl Registry.use (probeRegistry base)

/-- What was recorded under a topic about a call. -/
def told (uses : List Use) (topic : Topic) (m : Method) : List Float :=
  uses.filterMap (Use.value? topic m)

/-- What a read tells under a topic about a call. -/
def reading? (base : Text) (uses : List Use) (topic : Topic) (m : Method) : Option Reading :=
  ((after base uses).collect.find? (fullName base topic.name)).bind
    (·.reading? methodLabel (some m.name))

/-- The durations are finite and not below zero. -/
def AreTimes (uses : List Use) : Prop :=
  ∀ m ms, Use.noted m (.duration ms) ∈ uses → ∃ y, rational? ms = some y ∧ 0 ≤ y

/-! ## The instruments -/

theorem Topic.name_inj {topic topic' : Topic} (h : topic.name = topic'.name) : topic = topic' := by
  cases topic <;> cases topic' <;> first | rfl | exact absurd h (by decide)

theorem Topic.fullName_inj {base : Text} {topic topic' : Topic}
    (h : fullName base topic.name = fullName base topic'.name) : topic = topic' :=
  name_inj (Text.append_right_inj h)

def Topic.description : Topic → Text
  | duration => "Time it took to fetch data from the RPC endpoint."
  | error => "Number of errors while fetching data from the RPC endpoint."
  | publishError => "Number of errors while publishing events to NATS."
  | skip => "Number of due RPC fetches skipped because the previous call had not resolved."

def Topic.unit : Topic → Text
  | duration => "s"
  | _ => ""

/-- The instrument of a topic before anything is recorded. -/
def Topic.instrument (base : Text) (topic : Topic) : Instrument :=
  ⟨fullName base topic.name, topic.description, topic.unit, topic.kind, []⟩

/-- The topics in the order of their instruments. -/
def Topic.all : List Topic :=
  [duration, error, publishError, skip]

/-- Creates the instrument of a topic. -/
def Registry.createFor (base : Text) (r : Registry) (topic : Topic) : Registry :=
  (r.create (fullName base topic.name) topic.description topic.unit topic.kind).1

/-- The instruments of further topics are new ones. -/
theorem foldl_createFor (base : Text) {topics more : List Topic} (h : (topics ++ more).Nodup) :
    more.foldl (Registry.createFor base) ⟨topics.map (·.instrument base), false⟩ =
      ⟨(topics ++ more).map (·.instrument base), false⟩ := by
  induction more generalizing topics with
  | nil => rw [List.append_nil, List.foldl_nil]
  | cons topic more ih =>
    have hnotMem : topic ∉ topics := fun hmem =>
      (List.nodup_append.mp h).2.2 topic hmem topic List.mem_cons_self rfl
    have hnone : (topics.map (·.instrument base)).findIdx
        (Registry.matching (fullName base topic.name) topic.unit topic.kind) =
          (topics.map (·.instrument base)).length := by
      refine List.findIdx_eq_length.mpr fun i hi => ?_
      obtain ⟨other, hother, rfl⟩ := List.mem_map.mp hi
      have hne : (other.instrument base).name ≠ fullName base topic.name := fun heq =>
        hnotMem (Topic.fullName_inj heq ▸ hother)
      simp [Registry.matching, hne]
    have hcreate : Registry.createFor base ⟨topics.map (·.instrument base), false⟩ topic =
        ⟨(topics ++ [topic]).map (·.instrument base), false⟩ := by
      rw [Registry.createFor, Registry.create, hnone, List.getElem?_eq_none le_rfl, List.map_append]
      rfl
    rw [List.foldl_cons, hcreate, ih (by rwa [List.append_assoc]), List.append_assoc]
    rfl

/-- The probe has an instrument for each topic. -/
theorem probeRegistry_eq (base : Text) :
    probeRegistry base = ⟨Topic.all.map (·.instrument base), false⟩ :=
  @foldl_createFor base [] Topic.all (by decide)

/-- What is done, as an instrument sees it. -/
def Instrument.use (topic : Topic) (i : Instrument) : Use → Instrument
  | .noted m what => if what.topic = topic then i.record (labelsOf m) what.value else i
  | u => if u.reads then i.collect else i

/-- A request reads the registry if it is shown. -/
theorem respond_fst {r : Registry} (hopen : r.isShut = false) {program : Text} {token : Option Text}
    {q : Inquiry} : (r.respond program token q).1 =
      if (Use.asked program token q).reads then r.collect else r := by
  have hreads : (Use.asked program token q).reads =
      ((refusal? token q.authorization).isNone && q.asksForMetrics) := rfl
  rw [hreads]
  cases hpass : refusal? token q.authorization with
  | some response =>
    rw [respond_of_refused hpass]
    rfl
  | none =>
    by_cases hasks : q.IsForMetrics
    · rw [respond_of_metrics hpass hasks, hopen, asksForMetrics_iff.mpr hasks]
      rfl
    · rw [respond_of_other hpass hasks, Bool.eq_false_iff.mpr (mt asksForMetrics_iff.mp hasks)]
      rfl

/-- Each instrument only sees what is about its topic, and the reads. -/
theorem use_topics (instrument : Topic → Instrument) (u : Use) :
    (⟨Topic.all.map instrument, false⟩ : Registry).use u =
      ⟨Topic.all.map fun topic => (instrument topic).use topic u, false⟩ := by
  cases u with
  | noted m what => cases what <;> rfl
  | read => rfl
  | asked program token q =>
    rw [Registry.use, respond_fst rfl]
    simp only [Instrument.use]
    split <;> rfl

/-- The instrument of a topic after what was done. -/
def instrumentAfter (base : Text) (uses : List Use) (topic : Topic) : Instrument :=
  uses.foldl (Instrument.use topic) (topic.instrument base)

theorem instrumentAfter_concat (base : Text) (uses : List Use) (u : Use) (topic : Topic) :
    instrumentAfter base (uses ++ [u]) topic = (instrumentAfter base uses topic).use topic u :=
  List.foldl_concat ..

theorem after_eq (base : Text) (uses : List Use) :
    after base uses = ⟨Topic.all.map (instrumentAfter base uses), false⟩ := by
  rw [after, probeRegistry_eq]
  induction uses using List.reverseRecOn with
  | nil => rfl
  | append_singleton uses u ih =>
    rw [List.foldl_concat, ih, use_topics]
    simp only [← instrumentAfter_concat]

/-! ## The series -/

/-- What is done, as a series sees it. -/
def seriesUse (topic : Topic) (m : Method) (cell : Option Series) : Use → Option Series
  | .noted m' what =>
    if m' = m ∧ what.topic = topic ∧ ¬ what.value < 0 then
      some ((cell.getD ⟨labelsOf m, none, none⟩).record topic.kind what.value)
    else cell
  | u => if u.reads then cell.map (·.collect) else cell

/-- The instrument is the one of the topic, with a series for each call that has one. -/
structure Instrument.IsFor (base : Text) (topic : Topic) (i : Instrument) : Prop where
  name : i.name = fullName base topic.name
  kind : i.kind = topic.kind
  byMethod : IsByMethod i.series

variable {base : Text} {topic : Topic} {i : Instrument}

theorem Instrument.IsFor.use (h : i.IsFor base topic) (u : Use) :
    (i.use topic u).IsFor base topic ∧
      ∀ m, seriesOf? (i.use topic u).series m = seriesUse topic m (seriesOf? i.series m) u := by
  have hreads (reads : Bool) : (if reads then i.collect else i).IsFor base topic ∧
      ∀ m, seriesOf? (if reads then i.collect else i).series m =
        if reads then (seriesOf? i.series m).map (·.collect) else seriesOf? i.series m := by
    cases reads with
    | true => exact ⟨⟨h.name, h.kind, h.byMethod.collect⟩, seriesOf?_collect i.series⟩
    | false => exact ⟨h, fun _ => rfl⟩
  cases u with
  | noted m what =>
    simp only [Instrument.use, seriesUse]
    by_cases htopic : what.topic = topic
    · by_cases hv : what.value < 0
      · rw [if_pos htopic, Instrument.record, if_pos hv]
        exact ⟨h, fun m' => (if_neg fun hcond => hcond.2.2 hv).symm⟩
      · rw [if_pos htopic, Instrument.record, if_neg hv, h.byMethod.labelsFor_eq]
        refine ⟨⟨h.name, h.kind, h.byMethod.recordIn i.kind m what.value⟩, fun m' => ?_⟩
        rw [seriesOf?_recordIn h.byMethod.owned, h.kind]
        by_cases hm : m' = m
        · subst hm
          rw [if_pos rfl, if_pos ⟨rfl, htopic, hv⟩]
        · rw [if_neg hm, if_neg fun hcond => hm hcond.1.symm]
    · rw [if_neg htopic]
      exact ⟨h, fun m' => (if_neg fun hcond => htopic hcond.2.1).symm⟩
  | read => exact hreads true
  | asked program token q => exact hreads (Use.asked program token q).reads

theorem isFor_instrumentAfter (base : Text) (uses : List Use) (topic : Topic) :
    (instrumentAfter base uses topic).IsFor base topic ∧
      ∀ m, seriesOf? (instrumentAfter base uses topic).series m =
        uses.foldl (seriesUse topic m) none := by
  induction uses using List.reverseRecOn with
  | nil => exact ⟨⟨rfl, rfl, .nil⟩, fun _ => rfl⟩
  | append_singleton uses u ih =>
    obtain ⟨hfor, hseries⟩ := ih
    obtain ⟨hfor', hseries'⟩ := hfor.use u
    rw [instrumentAfter_concat]
    exact ⟨hfor', fun m => by rw [hseries', hseries, List.foldl_concat]⟩

theorem mem_grouped {r : Registry} {i : Instrument} : i ∈ r.grouped ↔ i ∈ r.instruments := by
  simp only [Registry.grouped, List.mem_flatMap, List.mem_eraseDups, List.mem_map,
    List.mem_filter, decide_eq_true_iff]
  exact ⟨fun ⟨_, _, hi, _⟩ => hi, fun hi => ⟨i.name, ⟨i, hi, rfl⟩, hi, rfl⟩⟩

/-- What an instrument reads is found under its name, if no other one has that name. -/
theorem Registry.bind_find? {r : Registry} (hnodup : (r.instruments.map (·.name)).Nodup)
    (hi : i ∈ r.instruments) (key : Text) (value : Option Text) :
    (r.find? i.name).bind (·.reading? key value) = i.reading? key value := by
  cases hfind : r.find? i.name with
  | none =>
    have hempty : i.series = [] := by
      by_contra hne
      refine List.find?_eq_none.mp hfind i ?_ (decide_eq_true rfl)
      exact List.mem_filter.mpr ⟨mem_grouped.mpr hi, by simpa using hne⟩
    rw [Instrument.reading?, hempty]
    rfl
  | some other =>
    have hname : other.name = i.name := by simpa using List.find?_some hfind
    have hmem := mem_grouped.mp (List.mem_filter.mp (List.mem_of_find?_eq_some hfind)).1
    rw [List.inj_on_of_nodup_map hnodup hmem hi hname]
    rfl

/-- What a read tells is what a collection makes of the series. -/
theorem reading?_eq_foldl (base : Text) (uses : List Use) (topic : Topic) (m : Method) :
    reading? base uses topic m =
      ((uses.foldl (seriesUse topic m) none).map (·.collect)).bind (·.reported) := by
  have hinstruments : (after base uses).collect.instruments =
      Topic.all.map fun topic => (instrumentAfter base uses topic).collect := by
    rw [after_eq]
    exact List.map_map
  have hnodup : ((after base uses).collect.instruments.map (·.name)).Nodup := by
    rw [hinstruments, List.map_map]
    refine List.Nodup.map_on (fun topic _ topic' _ heq => @Topic.fullName_inj base _ _ ?_)
      (by decide)
    have hname (topic : Topic) : (instrumentAfter base uses topic).collect.name =
        fullName base topic.name := (isFor_instrumentAfter base uses topic).1.name
    rw [← hname, ← hname]
    exact heq
  obtain ⟨hfor, hseries⟩ := isFor_instrumentAfter base uses topic
  have hmem :
      (instrumentAfter base uses topic).collect ∈ (after base uses).collect.instruments := by
    rw [hinstruments]
    exact List.mem_map.mpr ⟨topic, by cases topic <;> decide, rfl⟩
  have hname : (instrumentAfter base uses topic).collect.name = fullName base topic.name :=
    hfor.name
  rw [reading?, ← hname, Registry.bind_find? hnodup hmem]
  rw [reading?_eq hfor.byMethod.collect, ← hseries m]
  exact congrArg (Option.bind · (·.reported)) (seriesOf?_collect _ m)

/-! ## The history -/

theorem le_greatest_of_rational? {x : Float} {y : ℚ} (hx : rational? x = some y) (hy : 0 < y) :
    y ≤ greatest := by
  obtain ⟨k, m, hpacked, -, -, rfl⟩ := exists_isPacked_of_pos hx hy
  exact hpacked.value_le_greatest

/-- A time in milliseconds is recorded in seconds. -/
theorem rational?_seconds {ms : Float} {y : ℚ} (hms : rational? ms = some y) (hy : 0 ≤ y) :
    rational? (ms / 1000) = some (rounded (y / 1000)) := by
  have hthousand : rational? 1000 = some 1000 := by decide +kernel
  refine rational?_div hms hthousand hy (by norm_num) ?_
  rcases hy.eq_or_lt with rfl | hpos
  · rw [zero_div]
    exact greatest_nonneg
  · exact (div_le_self hy (by norm_num)).trans (le_greatest_of_rational? hms hpos)

theorem AreTimes.takes {uses : List Use} {m : Method} {what : Recording} (h : AreTimes uses)
    (hmem : .noted m what ∈ uses) : what.topic.kind.Takes what.value := by
  cases what with
  | duration ms =>
    obtain ⟨y, hms, hy⟩ := h m ms hmem
    exact ⟨_, rational?_seconds hms hy, rounded_nonneg (by positivity)⟩
  | error => rfl
  | publishError => rfl
  | skip => rfl

/-- A series keeps what was recorded. -/
theorem keeps_foldl {uses : List Use} (h : AreTimes uses) (topic : Topic) (m : Method) :
    Keeps topic.kind (uses.foldl (seriesUse topic m) none) (told uses topic m) := by
  induction uses using List.reverseRecOn with
  | nil => rfl
  | append_singleton uses u ih =>
    have ih := ih fun m ms hmem => h m ms (List.mem_append_left _ hmem)
    have htold : told (uses ++ [u]) topic m = told uses topic m ++ (u.value? topic m).toList := by
      rw [told, List.filterMap_append]
      rfl
    rw [List.foldl_concat, htold]
    have hreads (reads : Bool) : Keeps topic.kind (if reads then
        (uses.foldl (seriesUse topic m) none).map (·.collect)
      else uses.foldl (seriesUse topic m) none) (told uses topic m ++ []) := by
      rw [List.append_nil]
      cases reads with
      | true => exact ih.collect
      | false => exact ih
    cases u with
    | noted m' what =>
      show Keeps _ (if _ then _ else _) (_ ++ (if _ then _ else _ : Option Float).toList)
      by_cases hown : m' = m ∧ what.topic = topic
      · have hv : topic.kind.Takes what.value := hown.2 ▸ h.takes List.mem_concat_self
        rw [if_pos ⟨hown.1, hown.2, hv.not_lt_zero⟩, if_pos hown]
        exact ih.record _ hv
      · rw [if_neg fun hcond => hown ⟨hcond.1, hcond.2.1⟩, if_neg hown, Option.toList_none,
          List.append_nil]
        exact ih
    | read => exact hreads true
    | asked program token q => exact hreads (Use.asked program token q).reads

/-- What a read tells is what was recorded. -/
theorem readsSome_reading? {uses : List Use} (h : AreTimes uses) (base : Text) (topic : Topic)
    (m : Method) : topic.kind.ReadsSome reportedLimit (reading? base uses topic m)
      (told uses topic m) := by
  rw [reading?_eq_foldl]
  exact (keeps_foldl h topic m).reading

/-- Behind a collection each series has something to tell. -/
theorem isSome_reported {uses : List Use} (h : AreTimes uses) (base : Text) (topic : Topic) :
    ∀ s ∈ (instrumentAfter base uses topic).collect.series, s.reported.isSome := by
  intro collected hcollected
  obtain ⟨hfor, hseries⟩ := isFor_instrumentAfter base uses topic
  obtain ⟨s, hs, rfl⟩ := List.mem_map.mp hcollected
  obtain ⟨m, hlabels⟩ := hfor.byMethod.owned s hs
  have hkeeps := keeps_foldl h topic m
  rw [← hseries, seriesOf?_of_mem hfor.byMethod hs hlabels] at hkeeps
  obtain ⟨r, hreported, -⟩ := Series.Keeps.collect hkeeps
  rw [hreported]
  rfl

theorem takes_of_mem_told {uses : List Use} (h : AreTimes uses) {m : Method} {v : Float}
    (hv : v ∈ told uses topic m) : topic.kind.Takes v := by
  obtain ⟨u, hu, hvalue⟩ := List.mem_filterMap.mp hv
  cases u with
  | noted m' what =>
    have hvalue : (if m' = m ∧ what.topic = topic then some what.value else none) = some v := hvalue
    split at hvalue
    · rename_i hown
      cases hvalue
      exact hown.2 ▸ h.takes hu
    · cases hvalue
  | read => cases hvalue
  | asked program token q => cases hvalue

/-- A series only sees what concerns it. -/
theorem foldl_seriesUse_filter (uses : List Use) (topic : Topic) (m : Method)
    (cell : Option Series) : (uses.filter (·.concerns topic m)).foldl (seriesUse topic m) cell =
      uses.foldl (seriesUse topic m) cell := by
  rw [List.foldl_filter]
  congr 1
  funext cell u
  split
  · rfl
  · rename_i hother
    cases u with
    | noted m' what =>
      refine (if_neg fun hcond => hother ?_).symm
      simp [Use.concerns, hcond.1, hcond.2.1]
    | read => exact absurd rfl hother
    | asked program token q => exact absurd rfl hother

/-- Of two calls about different methods a series sees one at most. -/
theorem filter_concerns_swap {m m' : Method} (hne : m ≠ m') (what what' : Recording)
    (earlier later : List Use) (topic : Topic) (m'' : Method) :
    (earlier ++ .noted m' what' :: .noted m what :: later).filter (·.concerns topic m'') =
      (earlier ++ .noted m what :: .noted m' what' :: later).filter (·.concerns topic m'') := by
  simp only [List.filter_append, List.filter_cons]
  congr 1
  by_cases hm : m = m''
  · have hother : Use.concerns topic m'' (.noted m' what') = false := by
      simp [Use.concerns, Ne.symm (hm ▸ hne)]
    rw [hother]
    rfl
  · have hother : Use.concerns topic m'' (.noted m what) = false := by
      simp [Use.concerns, hm]
    rw [hother]
    rfl

/-! ## What a read tells -/

/-- A counter tells a number of calls: nothing if there were none, and otherwise one for each of
them. That is their number as long as a double counts so far, and beyond it is no less than that. -/
inductive Totals : Nat → Option Reading → Prop
  | none : Totals 0 none
  | some {n : Nat} {x : Float} {y : ℚ} : 0 < n → SumsOnes n x → rational? x = some y →
    (n ≤ 2 ^ 53 → y = n) → (2 ^ 53 ≤ n → 2 ^ 53 ≤ y) → Totals n (some (.total x))

/-- A histogram tells some values: nothing if there were none, and otherwise their number and how
many of them lie in each bucket. -/
inductive Spreads (boundaries : List Float) : List Float → Option Reading → Prop
  | none : Spreads boundaries [] none
  | some {vs : List Float} {d : Distribution} : vs ≠ [] → d.count = vs.length →
    d.buckets.length = boundaries.length + 1 → d.buckets.sum = d.count →
    (∀ (i n : Nat), d.buckets[i]? = some n →
      n = vs.countP fun v => Distribution.LiesIn boundaries v i) →
    Spreads boundaries vs (some (.distribution d))

/-- The readings count the same. -/
inductive SameCounts : Option Reading → Option Reading → Prop
  | none : SameCounts none none
  | total {x x' : Float} : rational? x = rational? x' →
    SameCounts (some (.total x)) (some (.total x'))
  | distribution {d d' : Distribution} : d.count = d'.count → d.buckets = d'.buckets →
    SameCounts (some (.distribution d)) (some (.distribution d'))

theorem isSome_durationBoundaries : ∀ b ∈ durationBoundaries, (rational? b).isSome := by
  decide +kernel

section Tells

variable {limit : ℚ} {r r' : Option Reading} {vs vs' boundaries : List Float}

theorem Totals.of_readsSome (h : Kind.counter.ReadsSome limit r vs) : Totals vs.length r := by
  cases r with
  | none =>
    obtain rfl : vs = [] := h
    exact .none
  | some r =>
    obtain ⟨hne, ⟨hones, y, hx, -, hexact, hlarge⟩⟩ := h
    exact .some (List.length_pos_of_ne_nil hne) hones hx hexact hlarge

theorem Spreads.of_readsSome (h : (Kind.histogram boundaries).ReadsSome limit r vs)
    (hboundaries : ∀ b ∈ boundaries, (rational? b).isSome)
    (htakes : ∀ v ∈ vs, (Kind.histogram boundaries).Takes v) : Spreads boundaries vs r := by
  cases r with
  | none =>
    obtain rfl : vs = [] := h
    exact .none
  | some r =>
    obtain ⟨hne, ⟨⟩ | ⟨hcount, hbuckets⟩⟩ := h
    refine .some hne hcount ?_ ?_ fun i n hn => ?_
    · rw [hbuckets, Distribution.tally, List.length_map, List.length_range]
    · rw [hbuckets, Distribution.sum_tally, hcount]
    · rw [hbuckets, Distribution.tally, List.getElem?_map, Option.map_eq_some_iff] at hn
      obtain ⟨j, hj, rfl⟩ := hn
      obtain ⟨hi, rfl⟩ := List.getElem?_eq_some_iff.mp hj
      rw [List.getElem_range]
      refine List.countP_congr fun v hv => ?_
      obtain ⟨y, hy, -⟩ := htakes v hv
      rw [decide_eq_true_iff, decide_eq_true_iff, Distribution.bucketOf_eq_iff hy hboundaries]

theorem SameCounts.of_readsSome {kind : Kind} (h : kind.ReadsSome limit r vs)
    (h' : kind.ReadsSome limit r' vs') (hperm : vs.Perm vs')
    (hsmall : kind = .counter → vs.length ≤ 2 ^ 53) : SameCounts r r' := by
  cases r with
  | none =>
    obtain rfl : vs = [] := h
    cases r' with
    | none => exact .none
    | some r' => exact absurd hperm.nil_eq.symm h'.1
  | some r =>
    obtain ⟨hne, hreads⟩ := h
    cases r' with
    | none =>
      obtain rfl : vs' = [] := h'
      exact absurd hperm.eq_nil hne
    | some r' =>
      obtain ⟨-, hreads'⟩ := h'
      cases hreads with
      | total hcounts =>
        obtain ⟨-, y, hx, -, hexact, -⟩ := hcounts
        obtain ⟨⟨-, y', hx', -, hexact', -⟩⟩ := hreads'
        have hle := hsmall rfl
        refine .total ?_
        rw [hx, hx', hexact hle, hexact' (hperm.length_eq ▸ hle), hperm.length_eq]
      | distribution hcount hbuckets =>
        obtain ⟨⟩ | ⟨hcount', hbuckets'⟩ := hreads'
        refine .distribution ?_ ?_
        · rw [hcount, hcount', hperm.length_eq]
        · rw [hbuckets, hbuckets', Distribution.tally, Distribution.tally]
          exact List.map_congr_left fun i _ => hperm.countP_eq _

end Tells

/-- What is recorded about the calls is what reads tell. -/
structure KeepsHistory (base : Text) (uses : List Use) : Prop where
  /-- A read succeeds, -/
  reads : (after base uses).refresh = .ok (after base uses).collect
  /-- and a request that is shown the metrics is shown what a read tells. -/
  shows : ∀ (program : Text) (token : Option Text) (q : Inquiry),
    (Use.asked program token q).reads = true → (after base uses).respond program token q =
      ((after base uses).collect, .plain 200 ((after base uses).collect.exposition program))
  /-- Each counter tells for each call how often it was counted. -/
  counters : ∀ topic, topic ≠ .duration → ∀ m,
    Totals (told uses topic m).length (reading? base uses topic m)
  /-- The histogram tells for each call how many durations lie in each bucket. -/
  durations : ∀ m,
    Spreads durationBoundaries (told uses .duration m) (reading? base uses .duration m)
  /-- Each duration lies in one bucket, -/
  bucket : ∀ m, ∀ v ∈ told uses .duration m, ∃! i, Distribution.LiesIn durationBoundaries v i
  /-- and it is in seconds. -/
  seconds : ∀ m ms y, Use.noted m (.duration ms) ∈ uses → rational? ms = some y →
    rational? (Recording.duration ms).value = some (rounded (y / 1000))
  /-- Nothing else is told: each point is of a call, and no call has two. -/
  points : ∀ i ∈ (after base uses).collect.instruments,
    IsByMethod i.series ∧ ∀ s ∈ i.series, s.reported.isSome
  /-- What is told under a topic about a call depends only on what was recorded under this topic
  about this call, and on when it was read. -/
  alone : ∀ (uses' : List Use) (topic : Topic) (m : Method),
    uses'.filter (·.concerns topic m) = uses.filter (·.concerns topic m) →
      reading? base uses' topic m = reading? base uses topic m
  /-- So two calls about different methods may as well come the other way round. -/
  reorders : ∀ (earlier later : List Use) (m m' : Method) (what what' : Recording), m ≠ m' →
    uses = earlier ++ .noted m what :: .noted m' what' :: later → ∀ topic m'',
      reading? base (earlier ++ .noted m' what' :: .noted m what :: later) topic m'' =
        reading? base uses topic m''
  /-- The counts do not depend on when it was read either, nor on the order of the records. -/
  counts : ∀ uses', AreTimes uses' → ∀ topic m,
    (topic = .duration ∨ (told uses topic m).length ≤ 2 ^ 53) →
      (told uses topic m).Perm (told uses' topic m) →
        SameCounts (reading? base uses topic m) (reading? base uses' topic m)

/-- **Every read tells for each call how often it was recorded under each topic, and the buckets of
its durations; other calls, other topics and earlier reads do not matter.** -/
theorem keepsHistory (base : Text) {uses : List Use} (h : AreTimes uses) :
    KeepsHistory base uses := by
  have hopen : (after base uses).isShut = false := by rw [after_eq]
  have htakes (m : Method) : ∀ v ∈ told uses .duration m, Topic.duration.kind.Takes v :=
    fun _ hv => takes_of_mem_told h hv
  have halone (uses uses' : List Use) (topic : Topic) (m : Method)
      (heq : uses'.filter (·.concerns topic m) = uses.filter (·.concerns topic m)) :
      reading? base uses' topic m = reading? base uses topic m := by
    rw [reading?_eq_foldl, reading?_eq_foldl, ← foldl_seriesUse_filter uses',
      ← foldl_seriesUse_filter uses, heq]
  exact
    { reads := by
        rw [Registry.refresh, hopen]
        rfl
      shows := fun program token q hreads => by
        obtain ⟨hpass, hasks⟩ := Bool.and_eq_true_iff.mp hreads
        rw [respond_of_metrics (Option.isNone_iff_eq_none.mp hpass) (asksForMetrics_iff.mp hasks),
          hopen, if_neg Bool.false_ne_true]
      counters := fun topic htopic m => by
        have hcounter : topic.kind = .counter := by
          cases topic <;> first | rfl | exact absurd rfl htopic
        exact .of_readsSome (hcounter ▸ readsSome_reading? h base topic m)
      durations := fun m => .of_readsSome (readsSome_reading? h base .duration m)
        isSome_durationBoundaries (htakes m)
      bucket := fun m v hv => by
        obtain ⟨y, hy, -⟩ := htakes m v hv
        have hiff (i : Nat) := @Distribution.bucketOf_eq_iff durationBoundaries v i y hy
          isSome_durationBoundaries
        exact ⟨_, (hiff _).mp rfl, fun i hi => ((hiff i).mpr hi).symm⟩
      seconds := fun m ms y hmem hms => by
        obtain ⟨z, hz, hnonneg⟩ := h m ms hmem
        obtain rfl : y = z := Option.some_inj.mp (hms.symm.trans hz)
        exact rational?_seconds hms hnonneg
      points := fun i hi => by
        rw [after_eq] at hi
        obtain ⟨i, hmem, rfl⟩ := List.mem_map.mp hi
        obtain ⟨topic, -, rfl⟩ := List.mem_map.mp hmem
        exact ⟨(isFor_instrumentAfter base uses topic).1.byMethod.collect,
          isSome_reported h base topic⟩
      alone := halone uses
      reorders := fun earlier later m m' what what' hne heq topic m'' => by
        subst heq
        exact halone _ _ topic m'' (filter_concerns_swap hne what what' earlier later topic m'')
      counts := fun uses' h' topic m hsmall hperm => by
        refine .of_readsSome (readsSome_reading? h base topic m)
          (readsSome_reading? h' base topic m) hperm fun hcounter => ?_
        rcases hsmall with rfl | hsmall
        · cases hcounter
        · exact hsmall }

/-- A duration, a read, a failure and a skip of another call. -/
theorem keepsHistory_twoCalls :
    AreTimes [.noted .uptime (.duration 12.5), .read, .noted .uptime .error,
      .noted .peerInfo .skip] ∧
    KeepsHistory standardNamespace [.noted .uptime (.duration 12.5), .read, .noted .uptime .error,
      .noted .peerInfo .skip] := by
  have htimes : AreTimes [.noted .uptime (.duration 12.5), .read, .noted .uptime .error,
      .noted .peerInfo .skip] := by
    intro m ms hmem
    have hvalue : rational? 12.5 = some (25 / 2) := by decide +kernel
    obtain ⟨rfl, rfl⟩ : m = .uptime ∧ ms = 12.5 := by simpa using hmem
    exact ⟨25 / 2, hvalue, by norm_num⟩
  exact ⟨htimes, keepsHistory standardNamespace htimes⟩

end NodeProbe.Metrics
