import Mathlib.Data.List.Find
import Mathlib.Data.List.Perm.Subperm
import NodeProbe.Metrics.Registry
import NodeProbe.Proofs.Keyed
import NodeProbe.Proofs.Publishing

/-!
# The series of the calls

The instruments of the probe are only ever given the labels of calls. So each series belongs to one
call, there are no more series than calls (`IsByMethod.length_le`), and none is gathered with the
rest (`IsByMethod.labelsFor_eq`). What is recorded about a call changes the series of that call and
leaves all others as they are (`seriesOf?_recordIn`).
-/

namespace NodeProbe.Metrics

/-- The labels of a call. -/
def labelsOf (m : Method) : Labels :=
  [(methodLabel, m.name)]

theorem labelsOf_inj {m m' : Method} : labelsOf m = labelsOf m' ↔ m = m' := by
  refine ⟨fun h => Method.name_inj ?_, congrArg labelsOf⟩
  simpa [labelsOf] using h

theorem same_labelsOf {m m' : Method} : (labelsOf m).same (labelsOf m') = true ↔ m = m' := by
  simp only [Labels.same, labelsOf, List.length_singleton, decide_true, Bool.true_and,
    List.all_cons, List.all_nil, Bool.and_true, List.lookup_cons_self, decide_eq_true_eq,
    Option.some_inj]
  exact ⟨fun h => (Method.name_inj h).symm, fun h => by rw [h]⟩

/-- The series of a call. -/
def seriesOf? (series : List Series) (m : Method) : Option Series :=
  series.find? (·.labels = labelsOf m)

/-- Each series belongs to a call of its own. -/
structure IsByMethod (series : List Series) : Prop where
  owned : ∀ s ∈ series, ∃ m, s.labels = labelsOf m
  nodup : (series.map (·.labels)).Nodup

variable {series : List Series} {kind : Kind} {m m' : Method} {v : Float}

theorem labels_collect (s : Series) : s.collect.labels = s.labels := by
  unfold Series.collect
  split <;> rfl

namespace IsByMethod

theorem nil : IsByMethod [] :=
  ⟨nofun, List.nodup_nil⟩

theorem length_le (h : IsByMethod series) : series.length ≤ Method.all.length := by
  have hsubset : series.map (·.labels) ⊆ Method.all.map labelsOf := by
    intro labels hlabels
    obtain ⟨s, hs, rfl⟩ := List.mem_map.mp hlabels
    obtain ⟨m, hm⟩ := h.owned s hs
    exact List.mem_map.mpr ⟨m, m.mem_all, hm.symm⟩
  simpa using (h.nodup.subperm hsubset).length_le

/-- No call is gathered with others. -/
theorem labelsFor_eq (h : IsByMethod series) (labels : Labels) :
    Instrument.labelsFor labels series = labels := by
  have hlength : (series.filter (·.pending.isSome)).length < seriesLimit :=
    (List.length_filter_le _ _).trans_lt (h.length_le.trans_lt (by decide))
  simp [Instrument.labelsFor, hlength]

theorem collect (h : IsByMethod series) : IsByMethod (series.map (·.collect)) where
  owned s hs := by
    obtain ⟨s, hmem, rfl⟩ := List.mem_map.mp hs
    rw [labels_collect]
    exact h.owned s hmem
  nodup := by
    rw [List.map_map]
    convert h.nodup using 2
    funext s
    exact labels_collect s

/-- Recording leaves the labels, and adds those of the call if they are not there. -/
theorem labels_recordIn (kind : Kind) (labels : Labels) (v : Float) (series : List Series) :
    (Instrument.recordIn kind labels v series).map (·.labels) =
      if series.any (·.labels.same labels) then series.map (·.labels)
      else series.map (·.labels) ++ [labels] := by
  induction series with
  | nil => rfl
  | cons s series ih =>
    unfold Instrument.recordIn
    by_cases hsame : s.labels.same labels
    · simp [hsame, Series.record]
    · simp only [hsame, Bool.false_eq_true, if_false, List.map_cons, ih, List.any_cons,
        Bool.false_or]
      split <;> simp

theorem recordIn (h : IsByMethod series) (kind : Kind) (m : Method) (v : Float) :
    IsByMethod (Instrument.recordIn kind (labelsOf m) v series) := by
  have hlabels := labels_recordIn kind (labelsOf m) v series
  have howned : ∀ labels ∈ series.map (·.labels), ∃ m, labels = labelsOf m := by
    intro labels hmem
    obtain ⟨s, hs, rfl⟩ := List.mem_map.mp hmem
    exact h.owned s hs
  split at hlabels
  · refine ⟨fun s hs => howned _ ?_, by rw [hlabels]; exact h.nodup⟩
    rw [← hlabels]
    exact List.mem_map_of_mem hs
  · rename_i hnone
    refine ⟨fun s hs => ?_, ?_⟩
    · have hmem : s.labels ∈ (Instrument.recordIn kind (labelsOf m) v series).map (·.labels) :=
        List.mem_map_of_mem hs
      rw [hlabels, List.mem_append, List.mem_singleton] at hmem
      exact hmem.elim (howned _) fun heq => ⟨m, heq⟩
    · rw [hlabels, List.nodup_append]
      refine ⟨h.nodup, List.nodup_singleton _, ?_⟩
      rintro labels hmem other hother rfl
      obtain ⟨s, hs, rfl⟩ := List.mem_map.mp hmem
      have heq : s.labels = labelsOf m := List.mem_singleton.mp hother
      refine hnone (List.any_eq_true.mpr ⟨s, hs, ?_⟩)
      rw [heq]
      exact same_labelsOf.mpr rfl

end IsByMethod

theorem seriesOf?_cons {s : Series} {owner : Method} (howner : s.labels = labelsOf owner)
    (series : List Series) (m : Method) :
    seriesOf? (s :: series) m = if m = owner then some s else seriesOf? series m := by
  rw [seriesOf?, List.find?_cons]
  by_cases hm : m = owner
  · simp [howner, hm]
  · simp [howner, labelsOf_inj, hm, Ne.symm hm, seriesOf?]

/-- What is recorded about a call is about no other one. -/
theorem seriesOf?_recordIn (howned : ∀ s ∈ series, ∃ m, s.labels = labelsOf m) (kind : Kind)
    (m : Method) (v : Float) (m' : Method) :
    seriesOf? (Instrument.recordIn kind (labelsOf m) v series) m' =
      if m' = m then
        some (((seriesOf? series m).getD ⟨labelsOf m, none, none⟩).record kind v)
      else seriesOf? series m' := by
  induction series with
  | nil => exact seriesOf?_cons rfl [] m'
  | cons s series ih =>
    obtain ⟨owner, howner⟩ := howned s List.mem_cons_self
    have ih := ih fun s hs => howned s (List.mem_cons_of_mem _ hs)
    rw [seriesOf?_cons howner, seriesOf?_cons howner, Instrument.recordIn, howner]
    by_cases hsame : owner = m
    · subst hsame
      have howner' : (s.record kind v).labels = labelsOf owner := howner
      rw [if_pos (same_labelsOf.mpr rfl), if_pos rfl, seriesOf?_cons howner']
      split <;> rfl
    · rw [if_neg (mt same_labelsOf.mp hsame), seriesOf?_cons howner, ih, if_neg (Ne.symm hsame)]
      by_cases hm' : m' = owner
      · rw [if_pos hm', if_neg (hm' ▸ hsame), if_pos hm']
      · rw [if_neg hm', if_neg hm']

theorem seriesOf?_of_mem (h : IsByMethod series) {s : Series} (hs : s ∈ series)
    (hlabels : s.labels = labelsOf m) : seriesOf? series m = some s :=
  (find?_key_eq_some_iff h.nodup _).mpr ⟨hs, hlabels⟩

theorem seriesOf?_collect (series : List Series) (m : Method) :
    seriesOf? (series.map (·.collect)) m = (seriesOf? series m).map (·.collect) := by
  unfold seriesOf?
  rw [List.find?_map]
  congr 2
  funext s
  simp [labels_collect]

/-- A reading is found by the name of the call. -/
theorem reading?_eq {i : Instrument} (h : IsByMethod i.series) (m : Method) :
    i.reading? methodLabel (some m.name) = (seriesOf? i.series m).bind (·.reported) := by
  have hfind : i.series.find? (·.labels.lookup methodLabel = some (m.name : Text)) =
      seriesOf? i.series m := by
    refine List.find?_congr fun s hs => ?_
    obtain ⟨owner, howner⟩ := h.owned s hs
    rw [howner, Bool.eq_iff_iff]
    simp [labelsOf]
  rw [Instrument.reading?, hfind]

end NodeProbe.Metrics
