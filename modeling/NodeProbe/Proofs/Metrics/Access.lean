import Mathlib.Data.List.TakeWhile
import NodeProbe.Metrics.Server

/-!
# Who sees the exposition

A server with a token shows the exposition to the requests that carry the token and ask for it, and
to no others (`Guards.exposes`). What a request without the token learns depends on nothing but
whether its header names the scheme: two such requests, to two servers, get the same answer
(`Guards.blind`). A server without a token does not look at the header (`controlsAccess`).
-/

namespace NodeProbe

theorem Text.startsWith_iff {t start : Text} :
    t.startsWith start = true ↔ ∃ rest : Text, t = start ++ rest := by
  rw [startsWith, List.isPrefixOf_iff_prefix]
  constructor
  · rintro ⟨rest, hrest⟩
    exact ⟨⟨rest⟩, Text.ext hrest.symm⟩
  · rintro ⟨rest, rfl⟩
    exact ⟨rest.units, rfl⟩

theorem Text.drop_length_append (start rest : Text) :
    (⟨(start ++ rest).units.drop start.length⟩ : Text) = rest :=
  Text.ext List.drop_left

namespace Metrics

/-! ## Requests -/

namespace Inquiry

variable {q : Inquiry} {token : Text}

/-- The request is a `GET` for one of the two paths of the exposition, with a query or without. -/
def IsForMetrics (q : Inquiry) : Prop :=
  q.verb = "GET" ∧ ∃ path : Text, (path = "/" ∨ path = "/metrics") ∧
    (q.url = path ∨ ∃ query : Text, q.url = path ++ "?" ++ query)

/-- The header of the request names the scheme. -/
def NamesScheme (q : Inquiry) : Prop :=
  ∃ rest : Text, q.authorization = some ("Bearer " ++ rest)

/-- The header of the request consists of the scheme and the token. -/
def Carries (q : Inquiry) (token : Text) : Prop :=
  q.authorization = some ("Bearer " ++ token)

theorem Carries.namesScheme (h : q.Carries token) : q.NamesScheme :=
  ⟨token, h⟩

end Inquiry

/-- A path is what stands in front of the first question mark. -/
theorem pathOf_eq_iff {url path : Text} (h : Text.unit '?' ∉ path.units) :
    pathOf url = path ↔ url = path ∨ ∃ query : Text, url = path ++ "?" ++ query := by
  have hall : ∀ u ∈ path.units, decide (u ≠ Text.unit '?') = true := fun u hu =>
    decide_eq_true fun heq => h (heq ▸ hu)
  constructor
  · rintro rfl
    have hsplit := List.takeWhile_append_dropWhile (p := (· ≠ Text.unit '?')) (l := url.units)
    cases hrest : url.units.dropWhile (· ≠ Text.unit '?') with
    | nil =>
      rw [hrest, List.append_nil] at hsplit
      exact .inl (Text.ext hsplit.symm)
    | cons u rest =>
      have hfirst := List.head?_dropWhile_not (· ≠ Text.unit '?') url.units
      rw [hrest] at hfirst
      obtain rfl : u = Text.unit '?' := by simpa using hfirst
      refine .inr ⟨⟨rest⟩, Text.ext ?_⟩
      rw [← hsplit, hrest]
      exact (List.append_assoc _ [_] rest).symm
  · rintro (rfl | ⟨query, rfl⟩)
    · exact Text.ext (List.takeWhile_eq_self_iff.mpr hall)
    · refine Text.ext ?_
      show ((path.units ++ [Text.unit '?']) ++ query.units).takeWhile _ = path.units
      rw [List.append_assoc, List.takeWhile_append_of_pos hall, List.singleton_append,
        List.takeWhile_cons_of_neg (by simp), List.append_nil]

theorem asksForMetrics_iff {q : Inquiry} : q.asksForMetrics = true ↔ q.IsForMetrics := by
  unfold Inquiry.asksForMetrics Inquiry.IsForMetrics
  rw [Bool.and_eq_true, Bool.or_eq_true, decide_eq_true_iff, decide_eq_true_iff,
    decide_eq_true_iff, @pathOf_eq_iff q.url "/" (by decide),
    @pathOf_eq_iff q.url "/metrics" (by decide)]
  simp only [or_and_right, exists_or, exists_eq_left]

theorem bearer?_eq_some_iff {header sent : Text} :
    bearer? header = some sent ↔ header = "Bearer " ++ sent := by
  unfold bearer?
  simp only
  constructor
  · intro h
    split at h
    · rename_i hscheme
      obtain ⟨rest, rfl⟩ := Text.startsWith_iff.mp hscheme
      rw [Text.drop_length_append, Option.some_inj] at h
      rw [h]
    · cases h
  · rintro rfl
    rw [if_pos (Text.startsWith_iff.mpr ⟨sent, rfl⟩), Text.drop_length_append]

/-! ## Refusals -/

section Refusal

variable {token : Text} {q : Inquiry}

theorem bind_bearer?_eq_some_iff {sent : Text} :
    q.authorization.bind bearer? = some sent ↔ q.Carries sent := by
  simp only [Option.bind_eq_some_iff, bearer?_eq_some_iff, exists_eq_right]
  exact Iff.rfl

theorem bind_bearer?_eq_none_iff : q.authorization.bind bearer? = none ↔ ¬ q.NamesScheme := by
  rw [Option.eq_none_iff_forall_ne_some, Inquiry.NamesScheme, not_exists]
  exact forall_congr' fun sent => not_congr bind_bearer?_eq_some_iff

/-- What a request learns that does not carry the token. -/
inductive Refused (q : Inquiry) : Response → Prop
  | missing : ¬ q.NamesScheme →
    Refused q (.unauthorized "Unauthorized: Missing or invalid Bearer token")
  | invalid : q.NamesScheme → Refused q (.unauthorized "Unauthorized: Invalid Bearer token")

theorem Refused.status_eq {response : Response} (h : Refused q response) :
    response.status = 401 := by
  cases h <;> rfl

theorem Refused.unique {q' : Inquiry} {response response' : Response} (h : Refused q response)
    (h' : Refused q' response') (hscheme : q.NamesScheme ↔ q'.NamesScheme) :
    response = response' := by
  cases h with
  | missing hmissing =>
    cases h' with
    | missing => rfl
    | invalid hnames => exact absurd (hscheme.mpr hnames) hmissing
  | invalid hnames =>
    cases h' with
    | missing hmissing => exact absurd (hscheme.mp hnames) hmissing
    | invalid => rfl

/-- Without a token nobody is turned away. -/
theorem refusal?_of_no_token {token : Option Text} (h : ∀ t, token = some t → t = "")
    (authorization : Option Text) : refusal? token authorization = none := by
  rw [refusal?, Text.filter_isEmpty_eq_none_iff.mpr h]

theorem refusal?_of_carries (hne : token ≠ "") (h : q.Carries token) :
    refusal? (some token) q.authorization = none := by
  rw [refusal?, Text.filter_isEmpty_eq_some_iff.mpr ⟨rfl, hne⟩, bind_bearer?_eq_some_iff.mpr h]
  exact if_pos rfl

theorem exists_refusal?_of_not_carries (hne : token ≠ "") (h : ¬ q.Carries token) :
    ∃ response, refusal? (some token) q.authorization = some response ∧ Refused q response := by
  rw [refusal?, Text.filter_isEmpty_eq_some_iff.mpr ⟨rfl, hne⟩]
  simp only
  split
  · rename_i hnone
    exact ⟨_, rfl, .missing (bind_bearer?_eq_none_iff.mp hnone)⟩
  · rename_i sent hsent
    have hcarries := bind_bearer?_eq_some_iff.mp hsent
    rw [if_neg (fun heq : sent = token => h (heq ▸ hcarries))]
    exact ⟨_, rfl, .invalid hcarries.namesScheme⟩

end Refusal

/-! ## Answers -/

section Answer

variable {r : Registry} {program : Text} {token : Option Text} {q : Inquiry}

theorem respond_of_refused {response : Response}
    (h : refusal? token q.authorization = some response) :
    r.respond program token q = (r, response) := by
  rw [Registry.respond, h]

theorem respond_of_other (h : refusal? token q.authorization = none) (hother : ¬ q.IsForMetrics) :
    r.respond program token q = (r, .plain 404 "Not Found") := by
  rw [Registry.respond, h]
  exact if_neg fun hasks => hother (asksForMetrics_iff.mp hasks)

/-- What is answered in place of the metrics when the registry has been shut down. -/
def Response.shut : Response :=
  .plain 200 "# failed to export metrics: Error: MetricReader is shutdown"

theorem respond_of_metrics (h : refusal? token q.authorization = none) (hasks : q.IsForMetrics) :
    r.respond program token q =
      if r.isShut then (r, .shut) else (r.collect, .plain 200 (r.collect.exposition program)) := by
  have hshut : ("# failed to export metrics: " : Text) ++ Fault.registryShut.logText =
      "# failed to export metrics: Error: MetricReader is shutdown" := by decide
  rw [Registry.respond, h]
  simp only
  rw [if_pos (asksForMetrics_iff.mpr hasks), Registry.refresh]
  cases r.isShut with
  | true =>
    rw [if_pos rfl, if_pos rfl]
    simp only
    rw [hshut]
    rfl
  | false => rfl

/-- How a server with a token answers a request. -/
inductive Answers (token : Text) (r : Registry) (program : Text) (q : Inquiry) :
    Registry × Response → Prop
  | metrics : q.Carries token → q.IsForMetrics → Answers token r program q
    (if r.isShut then (r, .shut) else (r.collect, .plain 200 (r.collect.exposition program)))
  | other : q.Carries token → ¬ q.IsForMetrics → Answers token r program q
    (r, .plain 404 "Not Found")
  | refused {response : Response} : ¬ q.Carries token → Refused q response →
    Answers token r program q (r, response)

theorem answers_respond {token : Text} (hne : token ≠ "") (r : Registry) (program : Text)
    (q : Inquiry) : Answers token r program q (r.respond program (some token) q) := by
  by_cases hcarries : q.Carries token
  · have hpass := refusal?_of_carries hne hcarries
    by_cases hasks : q.IsForMetrics
    · rw [respond_of_metrics hpass hasks]
      exact .metrics hcarries hasks
    · rw [respond_of_other hpass hasks]
      exact .other hcarries hasks
  · obtain ⟨response, hresponse, hrefused⟩ := exists_refusal?_of_not_carries hne hcarries
    rw [respond_of_refused hresponse]
    exact .refused hcarries hrefused

/-- The status tells whether the metrics are shown. -/
theorem Answers.status_eq_iff {token : Text} {answer : Registry × Response}
    (h : Answers token r program q answer) :
    answer.2.status = 200 ↔ q.Carries token ∧ q.IsForMetrics := by
  cases h with
  | metrics hcarries hasks =>
    refine iff_of_true ?_ ⟨hcarries, hasks⟩
    split <;> rfl
  | other _ hother => exact iff_of_false (by simp [Response.plain]) fun h => hother h.2
  | refused hnone hrefused =>
    exact iff_of_false (by simp [hrefused.status_eq]) fun h => hnone h.1

theorem respond_eq_iff {token : Text} (hne : token ≠ "") : r.respond program (some token) q =
    (if r.isShut then (r, .shut) else (r.collect, .plain 200 (r.collect.exposition program))) ↔
      q.Carries token ∧ q.IsForMetrics := by
  constructor
  · intro heq
    rw [← (answers_respond hne r program q).status_eq_iff, heq]
    split <;> rfl
  · rintro ⟨hcarries, hasks⟩
    exact respond_of_metrics (refusal?_of_carries hne hcarries) hasks

end Answer

/-- The server guards its metrics with a token. -/
structure Guards (token : Text) : Prop where
  /-- The exposition is the answer exactly if the request carries the token and asks for it. -/
  exposes : ∀ (r : Registry) (program : Text) (q : Inquiry), r.isShut = false →
    (r.respond program (some token) q = (r.collect, .plain 200 (r.collect.exposition program)) ↔
      q.Carries token ∧ q.IsForMetrics)
  /-- When the registry has been shut down, the same requests are told so. -/
  closes : ∀ (r : Registry) (program : Text) (q : Inquiry), r.isShut = true →
    (r.respond program (some token) q = (r, .shut) ↔ q.Carries token ∧ q.IsForMetrics)
  /-- With the token there is nothing else to be found. -/
  misses : ∀ (r : Registry) (program : Text) (q : Inquiry), q.Carries token → ¬ q.IsForMetrics →
    r.respond program (some token) q = (r, .plain 404 "Not Found")
  /-- Without the token a request is turned away, and the registry is left as it is. -/
  refuses : ∀ (r : Registry) (program : Text) (q : Inquiry), ¬ q.Carries token →
    ∃ response, r.respond program (some token) q = (r, response) ∧ response.status = 401
  /-- The answer then depends on nothing but whether the header names the scheme. -/
  blind : ∀ (r r' : Registry) (program program' : Text) (token' : Text) (q q' : Inquiry),
    token' ≠ "" → ¬ q.Carries token → ¬ q'.Carries token' → (q.NamesScheme ↔ q'.NamesScheme) →
    (r.respond program (some token) q).2 = (r'.respond program' (some token') q').2

theorem guards {token : Text} (hne : token ≠ "") : Guards token where
  exposes r program q hopen := by
    have hiff := @respond_eq_iff r program q token hne
    rwa [hopen, if_neg Bool.false_ne_true] at hiff
  closes r program q hshut := by
    have hiff := @respond_eq_iff r program q token hne
    rwa [hshut, if_pos rfl] at hiff
  misses r program q hcarries hother := respond_of_other (refusal?_of_carries hne hcarries) hother
  refuses r program q hnone := by
    obtain ⟨response, hresponse, hrefused⟩ := exists_refusal?_of_not_carries hne hnone
    exact ⟨response, respond_of_refused hresponse, hrefused.status_eq⟩
  blind r r' program program' token' q q' hne' hnone hnone' hscheme := by
    obtain ⟨response, hresponse, hrefused⟩ := exists_refusal?_of_not_carries hne hnone
    obtain ⟨response', hresponse', hrefused'⟩ := exists_refusal?_of_not_carries hne' hnone'
    rw [respond_of_refused hresponse, respond_of_refused hresponse']
    exact hrefused.unique hrefused' hscheme

/-- How a server with this token, or without one, answers. An empty token is none. -/
structure ControlsAccess (token : Option Text) : Prop where
  guarded : ∀ t, token = some t → t ≠ "" → Guards t
  /-- Without a token the header does not matter. -/
  unguarded : (∀ t, token = some t → t = "") → ∀ (r : Registry) (program : Text) (q : Inquiry)
    (authorization : Option Text),
    r.respond program token { q with authorization } = r.respond program token q

/-- **A server with a token shows the metrics exactly to the requests that carry it and ask for
them, and tells all others without it the same; a server without one does not look at the
header.** -/
theorem controlsAccess (token : Option Text) : ControlsAccess token where
  guarded _ _ hne := guards hne
  unguarded hnone r program q authorization := by
    have hpass (authorization : Option Text) : refusal? token authorization = none :=
      refusal?_of_no_token hnone authorization
    rw [Registry.respond, Registry.respond, hpass, hpass]
    rfl

end Metrics

end NodeProbe
