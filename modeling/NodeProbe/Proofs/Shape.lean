import NodeProbe.Fetch.Outcome
import NodeProbe.Proofs.Decimal.Whole

/-!
# Shapes accept exactly their values

A shape looks at a value place by place: at the value itself (`Misfit`), and then at its parts one
after the other (`parts`). So what is wrong with a value is what is wrong with itself and with its
parts (`issues_some`), a value has no issue if it fits (`issues_eq_nil_iff`), and the first issue is
at the first place that does not fit (`head?_check_iff`). Members that a shape does not name make no
difference (`issues_congr`).
-/

namespace NodeProbe

namespace Json

/-- A number that is whole and not negative. -/
def IsCount (v : Json) : Prop :=
  ∃ (x : Float) (n : ℕ), v = number x ∧ Decimal.rational? x = some (n : ℚ)

def IsText (v : Json) : Prop :=
  ∃ t, v = string t

def IsFlag (v : Json) : Prop :=
  ∃ b, v = bool b

def IsObject (v : Json) : Prop :=
  ∃ fields, v = object fields

/-- An object that has all these members, each of its kind. -/
def HasMembers (v : Json) (members : List (String × (Json → Prop))) : Prop :=
  ∃ fields, v = object fields ∧ ∀ m ∈ members, ∃ w, fields.lookup (m.1 : Text) = some w ∧ m.2 w

end Json

namespace Shape

/-! ## Values that fit -/

/-- The value has the shape. -/
inductive Fits : Shape → Json → Prop
  | count {v} : v.IsCount → Fits count v
  | text {v} : v.IsText → Fits text v
  | flag {v} : v.IsFlag → Fits flag v
  | list {item vs} : (∀ v ∈ vs, Fits item v) → Fits (list item) (.array vs)
  | record {item fields} : (∀ f ∈ fields, Fits item f.2) → Fits (record item) (.object fields)
  | object {members fields} :
    (∀ m ∈ members, m.2.1 = false → (fields.lookup (m.1 : Text)).isSome) →
    (∀ m ∈ members, ∀ v, fields.lookup (m.1 : Text) = some v → Fits m.2.2 v) →
    Fits (object members) (.object fields)

section Fits

variable {v : Json}

theorem fits_count : count.Fits = Json.IsCount :=
  funext fun _ => propext ⟨fun h => by cases h; assumption, .count⟩

theorem fits_text : text.Fits = Json.IsText :=
  funext fun _ => propext ⟨fun h => by cases h; assumption, .text⟩

theorem fits_flag : flag.Fits = Json.IsFlag :=
  funext fun _ => propext ⟨fun h => by cases h; assumption, .flag⟩

theorem fits_list_iff {item : Shape} :
    (list item).Fits v ↔ ∃ vs, v = .array vs ∧ ∀ w ∈ vs, item.Fits w := by
  constructor
  · intro h
    cases h with
    | list hvs => exact ⟨_, rfl, hvs⟩
  · rintro ⟨vs, rfl, hvs⟩
    exact .list hvs

theorem fits_record_iff {item : Shape} :
    (record item).Fits v ↔ ∃ fields, v = .object fields ∧ ∀ f ∈ fields, item.Fits f.2 := by
  constructor
  · intro h
    cases h with
    | record hfields => exact ⟨_, rfl, hfields⟩
  · rintro ⟨fields, rfl, hfields⟩
    exact .record hfields

theorem fits_object_iff {members : List (String × Bool × Shape)} :
    (object members).Fits v ↔ ∃ fields, v = .object fields ∧
      (∀ m ∈ members, m.2.1 = false → (fields.lookup (m.1 : Text)).isSome) ∧
        ∀ m ∈ members, ∀ w, fields.lookup (m.1 : Text) = some w → m.2.2.Fits w := by
  constructor
  · intro h
    cases h with
    | object hthere hfit => exact ⟨_, rfl, hthere, hfit⟩
  · rintro ⟨fields, rfl, hthere, hfit⟩
    exact .object hthere hfit

/-- Members that must be there have to be there and fit, and others have to fit if they are. -/
theorem fits_object_iff_hasMembers {members : List (String × Bool × Shape)} :
    (object members).Fits v ↔
      v.HasMembers ((members.filter (!·.2.1)).map fun m => (m.1, m.2.2.Fits)) ∧
        ∀ m ∈ members, m.2.1 = true → ∀ w, v.field? m.1 = some w → m.2.2.Fits w := by
  rw [fits_object_iff]
  constructor
  · rintro ⟨fields, rfl, hthere, hfit⟩
    refine ⟨⟨fields, rfl, List.forall_mem_map.mpr fun m hm => ?_⟩, fun m hm _ => hfit m hm⟩
    obtain ⟨hm, hneeded⟩ := List.mem_filter.mp hm
    rw [Bool.not_eq_true'] at hneeded
    obtain ⟨w, hw⟩ := Option.isSome_iff_exists.mp (hthere m hm hneeded)
    exact ⟨w, hw, hfit m hm w hw⟩
  · rintro ⟨⟨fields, rfl, hneeded⟩, hoptional⟩
    have hfits : ∀ m ∈ members, m.2.1 = false →
        ∃ w, fields.lookup (m.1 : Text) = some w ∧ m.2.2.Fits w := fun m hm hfalse =>
      hneeded _ (List.mem_map_of_mem (List.mem_filter.mpr ⟨hm, by rw [hfalse]; rfl⟩))
    refine ⟨fields, rfl, fun m hm hfalse => ?_, fun m hm w hw => ?_⟩
    · obtain ⟨w, hw, -⟩ := hfits m hm hfalse
      exact Option.isSome_iff_exists.mpr ⟨w, hw⟩
    · cases hkind : m.2.1 with
      | true => exact hoptional m hm hkind w hw
      | false =>
        obtain ⟨w', hw', hfit⟩ := hfits m hm hkind
        exact Option.some.inj (hw'.symm.trans hw) ▸ hfit

theorem fits_required_iff {members : List (String × Shape)} :
    (required members).Fits v ↔ v.HasMembers (members.map fun m => (m.1, m.2.Fits)) := by
  rw [required, fits_object_iff_hasMembers]
  simp [List.filter_map, Function.comp_def]

end Fits

/-- A part of a value, if it is there, and the shape that it should have. -/
structure Part where
  key : Text
  shape : Shape
  value : Option Json

/-- The part is there and fits. -/
def Part.Fits (part : Part) : Prop :=
  ∃ v, part.value = some v ∧ part.shape.Fits v

/-- The parts of a value that a shape looks at, in the order in which it does: elements by their
index, fields of a record as they come, and named members in the order of the shape. An optional
member that is absent is passed over. -/
def parts : Shape → Json → List Part
  | list item, .array vs => vs.zipIdx.map fun (v, i) => ⟨Decimal.natText i, item, some v⟩
  | record item, .object fields => fields.map fun (key, v) => ⟨key, item, some v⟩
  | object members, .object fields =>
    (members.filter fun m => !m.2.1 || (fields.lookup (m.1 : Text)).isSome).map
      fun (key, _, shape) => ⟨key, shape, fields.lookup (key : Text)⟩
  | _, _ => []

/-- What is wrong with a place, its parts aside. A number that is neither whole nor positive is
found not to be whole first. -/
inductive Misfit : Shape → Option Json → Problem → Prop
  | required {shape} : Misfit shape none .required
  | wrongType {shape v} : shape.typeName ≠ v.typeName →
    Misfit shape (some v) (.wrongType shape.typeName v.typeName)
  | fraction {x} : (x == x) = true → (∀ i : ℤ, Decimal.rational? x ≠ some (i : ℚ)) →
    Misfit count (some (.number x)) .fraction
  | negative {x} {i : ℤ} : Decimal.rational? x = some (i : ℚ) → i < 0 →
    Misfit count (some (.number x)) .negative

/-- The first place, in the order in which a shape looks at a value, that does not fit, and what is
wrong there. -/
inductive FirstFault : Shape → Option Json → List Text → Problem → Prop
  | here {shape v problem} : Misfit shape v problem → FirstFault shape v [] problem
  | within {shape v before part behind path problem} :
    parts shape v = before ++ part :: behind → (∀ earlier ∈ before, earlier.Fits) →
    FirstFault part.shape part.value path problem →
    FirstFault shape (some v) (part.key :: path) problem

/-- The values agree in all that the shape looks at. Of an object that is any members but those
that are named. -/
inductive Alike : Shape → Json → Json → Prop
  | refl {shape v} : Alike shape v v
  | list {item vs ws} : vs.length = ws.length →
    (∀ (i : ℕ) v w, vs[i]? = some v → ws[i]? = some w → Alike item v w) →
    Alike (list item) (.array vs) (.array ws)
  | record {item fields fields'} : fields.map (·.1) = fields'.map (·.1) →
    (∀ (i : ℕ) f f', fields[i]? = some f → fields'[i]? = some f' → Alike item f.2 f'.2) →
    Alike (record item) (.object fields) (.object fields')
  | object {members fields fields'} :
    (∀ m ∈ members, (fields.lookup (m.1 : Text)).isSome = (fields'.lookup (m.1 : Text)).isSome) →
    (∀ m ∈ members, ∀ v w, fields.lookup (m.1 : Text) = some v →
      fields'.lookup (m.1 : Text) = some w → Alike m.2.2 v w) →
    Alike (object members) (.object fields) (.object fields')

/-! ## Issues, place by place -/

/-- What a shape says about a value itself. -/
def ownProblems (shape : Shape) (v : Json) : List Problem :=
  if shape.typeName = v.typeName then
    match shape, v with
    | count, .number x => countProblems x
    | _, _ => []
  else [.wrongType shape.typeName v.typeName]

theorem memberIssues_eq (members : List (String × Bool × Shape)) (path : List Text)
    (fields : List (Text × Json)) :
    memberIssues members path fields = (parts (object members) (.object fields)).flatMap
      fun part => issues part.shape (path ++ [part.key]) part.value := by
  induction members with
  | nil => rfl
  | cons member members ih =>
    obtain ⟨key, isOptional, shape⟩ := member
    cases isOptional with
    | false => simp [memberIssues, ih, parts]
    | true => cases hlookup : fields.lookup (key : Text) <;>
        simp [memberIssues, ih, parts, hlookup]

/-- The names of the types tell the kinds of values apart, and numbers from what is no number. -/
theorem exists_of_typeName_eq {shape : Shape} {v : Json} (h : shape.typeName = v.typeName) :
    match shape with
    | count => ∃ x, v = .number x ∧ (x == x) = true
    | text => v.IsText
    | flag => v.IsFlag
    | list _ => ∃ vs, v = .array vs
    | record _ | object _ => v.IsObject := by
  cases v with
  | number x =>
    by_cases hx : (x == x) = true
    · have hname : (Json.number x).typeName = "number" := if_pos hx
      rw [hname] at h
      cases shape <;> first | exact ⟨x, rfl, hx⟩ | simp [typeName] at h
    · have hname : (Json.number x).typeName = "nan" := if_neg hx
      rw [hname] at h
      cases shape <;> simp [typeName] at h
  | _ => cases shape <;> first | exact ⟨_, rfl⟩ | simp [typeName, Json.typeName] at h

theorem issues_of_typeName_ne {shape : Shape} {v : Json} (h : shape.typeName ≠ v.typeName)
    (path : List Text) :
    issues shape path (some v) = [⟨path, .wrongType shape.typeName v.typeName⟩] := by
  cases shape <;> cases v <;> first | rfl | exact absurd rfl h | skip
  case count.number x =>
    have hx : ¬ (x == x) = true := fun hx => h (if_pos hx).symm
    rw [issues, if_neg hx, Json.typeName, if_neg hx]
    rfl

theorem parts_of_typeName_ne {shape : Shape} {v : Json} (h : shape.typeName ≠ v.typeName) :
    parts shape v = [] := by
  cases shape <;> cases v <;> first | rfl | exact absurd rfl h

/-- What is wrong with a value is what is wrong with itself, and with its parts. -/
theorem issues_some (shape : Shape) (path : List Text) (v : Json) :
    issues shape path (some v) = (ownProblems shape v).map (⟨path, ·⟩) ++
      (parts shape v).flatMap fun part => issues part.shape (path ++ [part.key]) part.value := by
  by_cases h : shape.typeName = v.typeName
  · have hv := exists_of_typeName_eq h
    unfold ownProblems
    rw [if_pos h]
    cases shape with
    | count =>
      obtain ⟨x, rfl, hx⟩ := hv
      rw [issues, if_pos hx]
      exact (List.append_nil _).symm
    | text => obtain ⟨t, rfl⟩ := hv; rfl
    | flag => obtain ⟨b, rfl⟩ := hv; rfl
    | list item =>
      obtain ⟨vs, rfl⟩ := hv
      simp only [issues, parts, List.map_nil, List.nil_append, List.flatMap_def, List.map_map]
      rfl
    | record item =>
      obtain ⟨fields, rfl⟩ := hv
      simp only [issues, parts, List.map_nil, List.nil_append, List.flatMap_def, List.map_map]
      rfl
    | object members =>
      obtain ⟨fields, rfl⟩ := hv
      exact memberIssues_eq members path fields
  · unfold ownProblems
    rw [issues_of_typeName_ne h, if_neg h, parts_of_typeName_ne h]
    rfl

theorem issues_none (shape : Shape) (path : List Text) :
    issues shape path none = [⟨path, .required⟩] := by
  cases shape <;> rfl

theorem sizeOf_lt_of_mem_parts {shape : Shape} {v : Json} {part : Part}
    (h : part ∈ parts shape v) : sizeOf part.shape < sizeOf shape := by
  unfold parts at h
  split at h
  · obtain ⟨w, -, rfl⟩ := List.mem_map.mp h
    simp
  · obtain ⟨f, -, rfl⟩ := List.mem_map.mp h
    simp
  · rename_i members _
    obtain ⟨⟨key, isOptional, shape⟩, hmember, rfl⟩ := List.mem_map.mp h
    have hlt := List.sizeOf_lt_of_mem (List.mem_of_mem_filter hmember)
    simp at hlt ⊢
    omega
  · exact absurd h List.not_mem_nil

/-- A statement about a place holds everywhere if it follows from the same about its parts. -/
theorem induction_parts {motive : Shape → Option Json → Prop}
    (missing : ∀ shape, motive shape none)
    (place : ∀ shape v, (∀ part ∈ parts shape v, motive part.shape part.value) →
      motive shape (some v)) (shape : Shape) (v : Option Json) : motive shape v := by
  cases v with
  | none => exact missing shape
  | some v =>
    refine place shape v fun part hpart => ?_
    have := sizeOf_lt_of_mem_parts hpart
    exact induction_parts missing place part.shape part.value
termination_by sizeOf shape

/-! ## Values without issues -/

theorem countProblems_eq_nil_iff (x : Float) :
    countProblems x = [] ↔ ∃ n : ℕ, Decimal.rational? x = some (n : ℚ) := by
  unfold countProblems
  constructor
  · intro h
    obtain ⟨hinteger, hnonneg⟩ := List.append_eq_nil_iff.mp h
    have hwhole : Decimal.isInteger x = true := by
      by_contra hnot
      rw [if_neg hnot] at hinteger
      cases hinteger
    obtain ⟨i, hi⟩ := Decimal.isInteger_iff.mp hwhole
    have hpos : ¬ x < 0 := by
      intro hneg
      rw [if_pos hneg] at hnonneg
      cases hnonneg
    rw [Decimal.lt_zero_iff_of_rational? hi, not_lt] at hpos
    obtain ⟨n, rfl⟩ := Int.eq_ofNat_of_zero_le (Int.cast_nonneg_iff.mp hpos)
    exact ⟨n, hi⟩
  · rintro ⟨n, hn⟩
    have hwhole : Decimal.isInteger x = true := Decimal.isInteger_iff.mpr ⟨n, hn⟩
    have hpos : ¬ x < 0 := by
      rw [Decimal.lt_zero_iff_of_rational? hn, not_lt]
      exact Nat.cast_nonneg n
    rw [if_pos hwhole, if_neg hpos]
    rfl

theorem typeName_count {x : Float} (h : (x == x) = true) :
    count.typeName = (Json.number x).typeName :=
  (if_pos h).symm

theorem head?_countProblems_iff {x : Float} (hx : (x == x) = true) (problem : Problem) :
    (countProblems x).head? = some problem ↔ Misfit count (some (.number x)) problem := by
  unfold countProblems
  by_cases hwhole : Decimal.isInteger x = true
  · obtain ⟨i, hi⟩ := Decimal.isInteger_iff.mp hwhole
    have hneg : x < 0 ↔ i < 0 := by rw [Decimal.lt_zero_iff_of_rational? hi, Int.cast_lt_zero]
    rw [if_pos hwhole]
    constructor
    · intro hproblem
      split at hproblem
      · rename_i hlt
        cases hproblem
        exact .negative hi (hneg.mp hlt)
      · cases hproblem
    · intro hmisfit
      cases hmisfit with
      | wrongType hne => exact absurd (typeName_count hx) hne
      | fraction _ hnone => exact absurd hi (hnone i)
      | negative hi' hlt =>
        rw [hi, Option.some_inj, Int.cast_inj] at hi'
        rw [if_pos (hneg.mpr (hi' ▸ hlt))]
        rfl
  · have hnone : ∀ i : ℤ, Decimal.rational? x ≠ some (i : ℚ) := fun i hi =>
      hwhole (Decimal.isInteger_iff.mpr ⟨i, hi⟩)
    rw [if_neg hwhole]
    constructor
    · intro hproblem
      cases hproblem
      exact .fraction hx hnone
    · intro hmisfit
      cases hmisfit with
      | wrongType hne => exact absurd (typeName_count hx) hne
      | fraction _ _ => rfl
      | negative hi _ => exact absurd hi (hnone _)

theorem ownProblems_of_typeName_ne {shape : Shape} {v : Json} (h : shape.typeName ≠ v.typeName) :
    ownProblems shape v = [.wrongType shape.typeName v.typeName] :=
  if_neg h

theorem ownProblems_count {x : Float} (hx : (x == x) = true) :
    ownProblems count (.number x) = countProblems x :=
  if_pos (typeName_count hx)

/-- Only numbers can have the right type and a problem of their own. -/
theorem ownProblems_of_ne_count {shape : Shape} {v : Json} (h : shape.typeName = v.typeName)
    (hshape : shape ≠ count) : ownProblems shape v = [] := by
  unfold ownProblems
  rw [if_pos h]
  cases shape with
  | count => exact absurd rfl hshape
  | _ => rfl

/-- The first of the problems of a place is the one that is found there. -/
theorem head?_ownProblems_iff (shape : Shape) (v : Json) (problem : Problem) :
    (ownProblems shape v).head? = some problem ↔ Misfit shape (some v) problem := by
  by_cases h : shape.typeName = v.typeName
  · by_cases hshape : shape = count
    · obtain rfl := hshape
      obtain ⟨x, rfl, hx⟩ := exists_of_typeName_eq h
      rw [ownProblems_count hx]
      exact head?_countProblems_iff hx problem
    · rw [ownProblems_of_ne_count h hshape]
      refine iff_of_false nofun fun hmisfit => ?_
      cases hmisfit with
      | wrongType hne => exact hne h
      | _ => exact hshape rfl
  · rw [ownProblems_of_typeName_ne h]
    constructor
    · intro hproblem
      cases hproblem
      exact .wrongType h
    · intro hmisfit
      cases hmisfit with
      | wrongType _ => rfl
      | fraction hx _ => exact absurd (typeName_count hx) h
      | negative hi _ => exact absurd (typeName_count (Decimal.beq_self_of_rational? hi)) h

theorem mem_parts_object {members : List (String × Bool × Shape)} {fields : List (Text × Json)}
    {part : Part} : part ∈ parts (object members) (.object fields) ↔
      ∃ m ∈ members, (m.2.1 = false ∨ (fields.lookup (m.1 : Text)).isSome) ∧
        ⟨m.1, m.2.2, fields.lookup (m.1 : Text)⟩ = part := by
  simp only [parts, List.mem_map, List.mem_filter, Bool.or_eq_true, Bool.not_eq_true', and_assoc]

/-- A value has the shape if nothing is wrong with itself and its parts fit. -/
theorem fits_iff (shape : Shape) (v : Json) :
    shape.Fits v ↔ ownProblems shape v = [] ∧ ∀ part ∈ parts shape v, part.Fits := by
  constructor
  · intro h
    cases h with
    | count hv =>
      obtain ⟨x, n, rfl, hn⟩ := hv
      rw [ownProblems_count (Decimal.beq_self_of_rational? hn), countProblems_eq_nil_iff]
      exact ⟨⟨n, hn⟩, List.forall_mem_nil _⟩
    | text hv =>
      obtain ⟨t, rfl⟩ := hv
      exact ⟨ownProblems_of_ne_count rfl nofun, List.forall_mem_nil _⟩
    | flag hv =>
      obtain ⟨b, rfl⟩ := hv
      exact ⟨ownProblems_of_ne_count rfl nofun, List.forall_mem_nil _⟩
    | list hvs =>
      refine ⟨ownProblems_of_ne_count rfl nofun, List.forall_mem_map.mpr fun v hv => ?_⟩
      exact ⟨v.1, rfl, hvs v.1 (List.fst_mem_of_mem_zipIdx hv)⟩
    | record hfields =>
      refine ⟨ownProblems_of_ne_count rfl nofun, List.forall_mem_map.mpr fun f hf => ?_⟩
      exact ⟨f.2, rfl, hfields f hf⟩
    | object hthere hfit =>
      refine ⟨ownProblems_of_ne_count rfl nofun, fun part hpart => ?_⟩
      obtain ⟨m, hm, hlooked, rfl⟩ := mem_parts_object.mp hpart
      obtain ⟨v, hv⟩ := Option.isSome_iff_exists.mp (hlooked.elim (hthere m hm) id)
      exact ⟨v, hv, hfit m hm v hv⟩
  · rintro ⟨hown, hparts⟩
    have h : shape.typeName = v.typeName := by
      by_contra hne
      rw [ownProblems_of_typeName_ne hne] at hown
      cases hown
    have hv := exists_of_typeName_eq h
    cases shape with
    | count =>
      obtain ⟨x, rfl, hx⟩ := hv
      rw [ownProblems_count hx, countProblems_eq_nil_iff] at hown
      obtain ⟨n, hn⟩ := hown
      exact .count ⟨x, n, rfl, hn⟩
    | text => exact .text hv
    | flag => exact .flag hv
    | list item =>
      obtain ⟨vs, rfl⟩ := hv
      refine .list fun w hw => ?_
      obtain ⟨i, hi⟩ := List.mem_iff_getElem?.mp hw
      have hmem : (w, i) ∈ vs.zipIdx := List.mem_zipIdx_iff_getElem?.mpr hi
      obtain ⟨w', hw', hfits⟩ := hparts _ (List.mem_map_of_mem hmem)
      exact Option.some.inj hw' ▸ hfits
    | record item =>
      obtain ⟨fields, rfl⟩ := hv
      refine .record fun f hf => ?_
      obtain ⟨w, hw, hfits⟩ := hparts _ (List.mem_map_of_mem hf)
      exact Option.some.inj hw ▸ hfits
    | object members =>
      obtain ⟨fields, rfl⟩ := hv
      refine .object (fun m hm hneeded => ?_) fun m hm w hw => ?_
      · obtain ⟨w, hw, -⟩ := hparts _ (mem_parts_object.mpr ⟨m, hm, .inl hneeded, rfl⟩)
        exact Option.isSome_iff_exists.mpr ⟨w, hw⟩
      · obtain ⟨w', hw', hfits⟩ := hparts _ (mem_parts_object.mpr
          ⟨m, hm, .inr (Option.isSome_iff_exists.mpr ⟨w, hw⟩), rfl⟩)
        exact Option.some.inj (hw'.symm.trans hw) ▸ hfits

theorem issues_eq_nil_iff (shape : Shape) (v : Option Json) :
    ∀ path, issues shape path v = [] ↔ ∃ w, v = some w ∧ shape.Fits w := by
  induction shape, v using induction_parts with
  | missing shape =>
    intro path
    rw [issues_none]
    exact iff_of_false nofun nofun
  | place shape v ih =>
    intro path
    rw [issues_some, List.append_eq_nil_iff, List.map_eq_nil_iff, List.flatMap_eq_nil_iff]
    have hparts : (∀ part ∈ parts shape v,
        issues part.shape (path ++ [part.key]) part.value = []) ↔
          ∀ part ∈ parts shape v, part.Fits :=
      forall₂_congr fun part hpart => ih part hpart _
    rw [hparts, ← fits_iff]
    exact ⟨fun h => ⟨v, rfl, h⟩, fun ⟨w, hw, h⟩ => Option.some.inj hw ▸ h⟩

/-! ## The first issue -/

/-- What has parts is of the right type, and no number. -/
theorem ownProblems_of_mem_parts {shape : Shape} {v : Json} {part : Part}
    (h : part ∈ parts shape v) : ownProblems shape v = [] := by
  apply ownProblems_of_ne_count
  · by_contra hne
    rw [parts_of_typeName_ne hne] at h
    cases h
  · rintro rfl
    cases v <;> cases h

theorem exists_first_not_fits {ps : List Part} (h : ¬ ∀ part ∈ ps, part.Fits) :
    ∃ part before behind, ps = before ++ part :: behind ∧ (∀ earlier ∈ before, earlier.Fits) ∧
      ¬ part.Fits := by
  classical
  cases hfind : ps.find? fun part => decide (¬ part.Fits) with
  | none =>
    refine absurd (fun part hpart => ?_) h
    simpa using List.find?_eq_none.mp hfind part hpart
  | some part =>
    obtain ⟨hfault, before, behind, heq, hbefore⟩ := List.find?_eq_some_iff_append.mp hfind
    refine ⟨part, before, behind, heq, fun earlier hearlier => ?_, of_decide_eq_true hfault⟩
    simpa using hbefore earlier hearlier

/-- The first place at fault is the place of the first issue. -/
theorem FirstFault.head? {shape : Shape} {v : Option Json} {place : List Text} {problem : Problem}
    (h : FirstFault shape v place problem) :
    ∀ path, (issues shape path v).head? = some ⟨path ++ place, problem⟩ := by
  induction h with
  | @here shape v problem hmisfit =>
    intro path
    rw [List.append_nil]
    cases v with
    | none =>
      cases hmisfit
      rw [issues_none]
      rfl
    | some v =>
      rw [issues_some, List.head?_append, List.head?_map,
        (head?_ownProblems_iff shape v problem).mpr hmisfit]
      rfl
  | @within shape v before part behind place problem hparts hfits _ ih =>
    intro path
    have hpart : part ∈ parts shape v := hparts ▸ List.mem_append_right _ List.mem_cons_self
    have hown := ownProblems_of_mem_parts hpart
    have hbefore : (before.flatMap fun part => issues part.shape (path ++ [part.key]) part.value) =
        [] := by
      rw [List.flatMap_eq_nil_iff]
      exact fun earlier hearlier => (issues_eq_nil_iff _ _ _).mpr (hfits earlier hearlier)
    rw [issues_some, hown, List.map_nil, List.nil_append, hparts, List.flatMap_append, hbefore,
      List.nil_append, List.flatMap_cons, List.head?_append, ih]
    simp

theorem exists_firstFault (shape : Shape) (v : Option Json) :
    (∃ w, v = some w ∧ shape.Fits w) ∨ ∃ place problem, FirstFault shape v place problem := by
  induction shape, v using induction_parts with
  | missing shape => exact .inr ⟨[], .required, .here .required⟩
  | place shape v ih =>
    cases hown : (ownProblems shape v).head? with
    | some problem =>
      exact .inr ⟨[], problem, .here ((head?_ownProblems_iff shape v problem).mp hown)⟩
    | none =>
      by_cases hparts : ∀ part ∈ parts shape v, part.Fits
      · exact .inl ⟨v, rfl, (fits_iff shape v).mpr ⟨List.head?_eq_none_iff.mp hown, hparts⟩⟩
      · obtain ⟨part, before, behind, heq, hfits, hfault⟩ := exists_first_not_fits hparts
        have hmem : part ∈ parts shape v := heq ▸ List.mem_append_right _ List.mem_cons_self
        rcases ih part hmem with hfit | ⟨place, problem, hfirst⟩
        · exact absurd hfit hfault
        · exact .inr ⟨part.key :: place, problem, .within heq hfits hfirst⟩

/-- The first issue of a value is at the first place that does not fit. -/
theorem head?_check_iff (shape : Shape) (v : Option Json) (place : List Text) (problem : Problem) :
    (shape.check v).head? = some ⟨place, problem⟩ ↔ FirstFault shape v place problem := by
  constructor
  · intro h
    rcases exists_firstFault shape v with hfits | ⟨place', problem', hfault⟩
    · rw [check, (issues_eq_nil_iff shape v []).mpr hfits] at h
      cases h
    · rw [check, hfault.head? [], Option.some_inj] at h
      cases h
      exact hfault
  · intro h
    exact h.head? []

/-! ## What makes no difference -/

theorem memberIssues_congr {members : List (String × Bool × Shape)} {path : List Text}
    {fields fields' : List (Text × Json)}
    (hthere : ∀ m ∈ members,
      (fields.lookup (m.1 : Text)).isSome = (fields'.lookup (m.1 : Text)).isSome)
    (hissues : ∀ m ∈ members, ∀ v w, fields.lookup (m.1 : Text) = some v →
      fields'.lookup (m.1 : Text) = some w →
        issues m.2.2 (path ++ [(m.1 : Text)]) (some v) =
          issues m.2.2 (path ++ [(m.1 : Text)]) (some w)) :
    memberIssues members path fields = memberIssues members path fields' := by
  induction members with
  | nil => rfl
  | cons member members ih =>
    obtain ⟨key, isOptional, shape⟩ := member
    obtain ⟨hfirst, hthere⟩ := List.forall_mem_cons.mp hthere
    obtain ⟨hsame, hissues⟩ := List.forall_mem_cons.mp hissues
    have hrest := ih hthere hissues
    cases hv : fields.lookup (key : Text) with
    | none =>
      cases hw : fields'.lookup (key : Text) with
      | none => cases isOptional <;> simp only [memberIssues, hv, hw, hrest]
      | some w => simp [hv, hw] at hfirst
    | some v =>
      cases hw : fields'.lookup (key : Text) with
      | none => simp [hv, hw] at hfirst
      | some w => simp only [memberIssues, hv, hw, hrest, hsame v w hv hw]

/-- Values that agree in what the shape looks at have the same issues. -/
theorem issues_congr {shape : Shape} {v w : Json} (h : shape.Alike v w) :
    ∀ path, issues shape path (some v) = issues shape path (some w) := by
  induction h with
  | refl => exact fun _ => rfl
  | @list item vs ws hlength _ ih =>
    intro path
    rw [issues, issues]
    congr 1
    refine List.ext_getElem (by simp [hlength]) fun i hi hi' => ?_
    simp only [List.getElem_map, List.getElem_zipIdx]
    exact ih i _ _ (List.getElem?_eq_getElem _) (List.getElem?_eq_getElem _) _
  | @record item fields fields' hkeys _ ih =>
    intro path
    rw [issues, issues]
    congr 1
    have hlength : fields.length = fields'.length := by simpa using congrArg List.length hkeys
    refine List.ext_getElem (by simp [hlength]) fun i hi hi' => ?_
    have hlt : i < fields.length := by simpa using hi
    have hlt' : i < fields'.length := hlength ▸ hlt
    have hkey : fields[i].1 = fields'[i].1 := by
      have hkeys' := congrArg (·[i]?) hkeys
      simpa [hlt, hlt'] using hkeys'
    simp only [List.getElem_map, hkey]
    exact ih i _ _ (List.getElem?_eq_getElem _) (List.getElem?_eq_getElem _) _
  | @object members fields fields' hthere _ ih =>
    intro path
    rw [issues, issues]
    exact memberIssues_congr hthere fun m hm v w hv hw => ih m hm v w hv hw _

end Shape

end NodeProbe
