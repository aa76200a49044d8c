import NodeProbe.Proofs.Shape

/-!
# What each call accepts

The shapes of the nine calls in words (`Method.Accepts`): a result has no issue exactly if it is
what its call accepts. The first issue of any other result, which is the one that is quoted, is at
the first place that does not fit, and what a call does not rely on makes no difference
(`checksResult`).
-/

namespace NodeProbe

open Shape

namespace Method

/-- What the result of a call may be. -/
def Accepts : Method → Json → Prop
  | peerInfo, v => ∃ peers, v = .array peers ∧
      ∀ peer ∈ peers, peer.HasMembers [("id", Json.IsCount), ("addr", Json.IsText)]
  | mempoolInfo, v =>
    v.HasMembers [("loaded", Json.IsFlag), ("size", Json.IsCount), ("bytes", Json.IsCount)]
  | uptime, v => v.IsCount
  | netTotals, v => v.HasMembers
      [("totalbytesrecv", Json.IsCount), ("totalbytessent", Json.IsCount),
        ("timemillis", Json.IsCount)]
  | memoryInfo, v => v.HasMembers [("locked", Json.IsObject)]
  | addrmanInfo, v => ∃ tables, v = .object tables ∧
      ∀ table ∈ tables, table.2.HasMembers
        [("new", Json.IsCount), ("tried", Json.IsCount), ("total", Json.IsCount)]
  | chainTxStats, v =>
    v.HasMembers
        [("time", Json.IsCount), ("window_final_block_height", Json.IsCount),
          ("window_block_count", Json.IsCount)] ∧
      -- It may be absent, but it may not be null.
      ∀ w, v.field? "txcount" = some w → w.IsCount
  | networkInfo, v => v.HasMembers
      [("version", Json.IsCount), ("subversion", Json.IsText), ("protocolversion", Json.IsCount)]
  | blockchainInfo, v => v.HasMembers
      [("chain", Json.IsText), ("blocks", Json.IsCount), ("headers", Json.IsCount),
        ("bestblockhash", Json.IsText)]

theorem fits_free : (object []).Fits = Json.IsObject := by
  funext v
  rw [fits_object_iff]
  simp [Json.IsObject]

theorem fits_shape_iff (method : Method) (v : Json) :
    method.shape.Fits v ↔ method.Accepts v := by
  cases method <;>
    simp only [shape, Accepts, fits_list_iff, fits_record_iff, fits_required_iff, fits_count,
      fits_text, fits_flag, fits_free, List.map_cons, List.map_nil]
  case chainTxStats =>
    rw [fits_object_iff_hasMembers]
    simp [fits_count]

theorem check_eq_nil_iff (method : Method) (v : Option Json) :
    method.shape.check v = [] ↔ ∃ w, v = some w ∧ method.Accepts w := by
  rw [check, issues_eq_nil_iff]
  exact exists_congr fun w => and_congr_right fun _ => fits_shape_iff method w

/-- What the shape of a result says about it. -/
structure ChecksResult (method : Method) : Prop where
  /-- Nothing is wrong with a result exactly if it is what the call accepts. -/
  accepts : ∀ v, method.shape.check v = [] ↔ ∃ w, v = some w ∧ method.Accepts w
  /-- What the shape does not name makes no difference, neither to that nor to the issues. -/
  free : ∀ v w, method.shape.Alike v w →
    method.shape.check (some v) = method.shape.check (some w)
  /-- The first issue is at the first place that does not fit. -/
  first : ∀ v place problem, (method.shape.check v).head? = some ⟨place, problem⟩ ↔
    method.shape.FirstFault v place problem
  /-- It is the one that is quoted when a call comes to such a result. -/
  quoted : ∀ v place problem, method.shape.FirstFault v place problem →
    Verdict.ofResult method v = .failure .decode
      ("Unexpected result shape at " ++ (Issue.mk place problem).place ++ ": " ++ problem.message)

theorem ofResult_of_firstFault {method : Method} {v : Option Json} {place : List Text}
    {problem : Problem} (h : method.shape.FirstFault v place problem) :
    Verdict.ofResult method v = .failure .decode
      ("Unexpected result shape at " ++ (Issue.mk place problem).place ++ ": " ++
        problem.message) := by
  have hfirst := (head?_check_iff method.shape v place problem).mpr h
  obtain ⟨more, hcheck⟩ := List.head?_eq_some_iff.mp hfirst
  unfold Verdict.ofResult
  cases v with
  | none => rw [hcheck]; rfl
  | some v => simp only [hcheck]; rfl

/-- **Results are accepted exactly if they have the shape that their call relies on.** -/
theorem checksResult (method : Method) : ChecksResult method where
  accepts := check_eq_nil_iff method
  free _ _ h := issues_congr h []
  first v := head?_check_iff method.shape v
  quoted _ _ _ h := ofResult_of_firstFault h

end Method

end NodeProbe
