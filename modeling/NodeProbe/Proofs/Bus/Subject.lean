import NodeProbe.Config.Settings
import NodeProbe.Proofs.Publishing

/-!
# Subjects and their tokens

A dotted text consists of tokens with dots between them, and its tokens can be told from it
(`Text.IsDotted.unique`). The base of the subjects is checked for this form (`isSubject_iff`). Below
such a base the subject of a call has the tokens of the base and, as the last one, the name of the
call (`isDotted_subjectOf`), so base and call can be told from the subject (`eq_of_subjectOf_eq`).
-/

namespace NodeProbe

/-! ## Tokens -/

/-- A token is not empty and consists of lower-case letters, digits, underscores and hyphens. -/
structure Text.IsToken (t : Text) : Prop where
  ne : t ≠ ""
  units : ∀ u ∈ t.units, 97 ≤ u.toNat ∧ u.toNat ≤ 122 ∨ 48 ≤ u.toNat ∧ u.toNat ≤ 57 ∨
    u = Text.unit '_' ∨ u = Text.unit '-'

/-- The text consists of these tokens, at least one, with dots between them. -/
structure Text.IsDotted (t : Text) (tokens : List Text) : Prop where
  ne : tokens ≠ []
  each : ∀ token ∈ tokens, token.IsToken
  eq : t = joined "." tokens

section Tokens

variable {us rest : List UInt16} {u : UInt16} {t : Text} {tokens : List Text}

theorem isSubjectUnit_iff : isSubjectUnit u = true ↔ 97 ≤ u.toNat ∧ u.toNat ≤ 122 ∨
    48 ≤ u.toNat ∧ u.toNat ≤ 57 ∨ u = Text.unit '_' ∨ u = Text.unit '-' := by
  simp only [isSubjectUnit, Bool.or_eq_true, Bool.and_eq_true, decide_eq_true_iff, or_assoc]

theorem ne_dot_of_isSubjectUnit (h : isSubjectUnit u = true) : u ≠ dot := by
  rintro rfl
  exact absurd h (by decide)

theorem Text.isToken_iff : t.IsToken ↔ t.units ≠ [] ∧ ∀ u ∈ t.units, isSubjectUnit u = true := by
  simp only [isSubjectUnit_iff]
  exact ⟨fun h => ⟨fun heq => h.ne (Text.ext heq), h.units⟩,
    fun h => ⟨fun heq => h.1 (congrArg Text.units heq), h.2⟩⟩

theorem Text.IsToken.dot_notMem (h : t.IsToken) : dot ∉ t.units := fun hmem =>
  ne_dot_of_isSubjectUnit ((isToken_iff.mp h).2 _ hmem) rfl

/-- A dotted text has its tokens only. -/
theorem Text.IsDotted.unique {tokens' : List Text} (h : t.IsDotted tokens)
    (h' : t.IsDotted tokens') : tokens = tokens' := by
  have hsplit {ts : List Text} (hts : t.IsDotted ts) :
      t.units.splitOn dot = ts.map (·.units) := by
    rw [hts.eq]
    refine List.splitOn_intercalate dot ?_ fun heq => hts.ne (List.map_eq_nil_iff.mp heq)
    exact List.forall_mem_map.mpr fun token htoken => (hts.each token htoken).dot_notMem
  exact List.map_injective_iff.mpr (fun _ _ => Text.ext) ((hsplit h).symm.trans (hsplit h'))

/-! ## The check -/

/-- Units that may stand in a token belong to the current one. -/
theorem isSubject_append (hus : ∀ u ∈ us, isSubjectUnit u = true) (begun : Bool) :
    isSubject begun (us ++ rest) = isSubject (begun || !us.isEmpty) rest := by
  induction us generalizing begun with
  | nil => simp
  | cons u us ih =>
    obtain ⟨hu, hus⟩ := List.forall_mem_cons.mp hus
    rw [List.cons_append, isSubject, if_neg (ne_dot_of_isSubjectUnit hu), hu, Bool.true_and, ih hus]
    simp

theorem isSubject_joined {token : Text} (htoken : token.IsToken)
    (htokens : ∀ token ∈ tokens, token.IsToken) :
    isSubject false (Text.joined "." (token :: tokens)).units = true := by
  induction tokens generalizing token with
  | nil =>
    obtain ⟨hne, hunits⟩ := Text.isToken_iff.mp htoken
    have hempty : token.units.isEmpty = false := List.isEmpty_eq_false_iff.mpr hne
    show isSubject false (token.units ++ []) = true
    rw [isSubject_append hunits, hempty]
    rfl
  | cons next tokens ih =>
    obtain ⟨hne, hunits⟩ := Text.isToken_iff.mp htoken
    have hempty : token.units.isEmpty = false := List.isEmpty_eq_false_iff.mpr hne
    obtain ⟨hnext, htokens⟩ := List.forall_mem_cons.mp htokens
    have hrest := ih hnext htokens
    show isSubject false (token.units ++ dot :: (Text.joined "." (next :: tokens)).units) = true
    rw [isSubject_append hunits, hempty, isSubject, if_pos rfl, hrest]
    rfl

/-- What passes the check is what is left of a token that has begun, and tokens behind it. -/
theorem exists_tokens_of_isSubject {begun : Bool} (h : isSubject begun us = true) :
    ∃ first tokens, us = (Text.joined "." (first :: tokens)).units ∧
      (∀ u ∈ first.units, isSubjectUnit u = true) ∧ (begun = true ∨ first.units ≠ []) ∧
      ∀ token ∈ tokens, token.IsToken := by
  induction us generalizing begun with
  | nil =>
    refine ⟨"", [], rfl, fun u hu => absurd hu List.not_mem_nil, .inl h, ?_⟩
    exact List.forall_mem_nil _
  | cons u us ih =>
    rw [isSubject] at h
    split at h
    · rename_i hdot
      obtain ⟨hbegun, hrest⟩ := Bool.and_eq_true_iff.mp h
      obtain ⟨first, tokens, rfl, hunits, hne, htokens⟩ := ih hrest
      refine ⟨"", first :: tokens, ?_, fun u hu => absurd hu List.not_mem_nil, .inl hbegun, ?_⟩
      · rw [hdot]
        rfl
      · refine List.forall_mem_cons.mpr ⟨Text.isToken_iff.mpr ⟨?_, hunits⟩, htokens⟩
        exact hne.resolve_left Bool.false_ne_true
    · obtain ⟨hu, hrest⟩ := Bool.and_eq_true_iff.mp h
      obtain ⟨first, tokens, rfl, hunits, -, htokens⟩ := ih hrest
      refine ⟨⟨u :: first.units⟩, tokens, ?_, List.forall_mem_cons.mpr ⟨hu, hunits⟩,
        .inr (List.cons_ne_nil _ _), htokens⟩
      exact List.intercalate_cons_cons_left.symm

/-- The check accepts the dotted texts. -/
theorem isSubject_iff : isSubject false t.units = true ↔ ∃ tokens, t.IsDotted tokens := by
  constructor
  · intro h
    obtain ⟨first, tokens, heq, hunits, hne, htokens⟩ := exists_tokens_of_isSubject h
    have hfirst : first.IsToken :=
      Text.isToken_iff.mpr ⟨hne.resolve_left Bool.false_ne_true, hunits⟩
    exact ⟨first :: tokens, List.cons_ne_nil _ _, List.forall_mem_cons.mpr ⟨hfirst, htokens⟩,
      Text.ext heq⟩
  · rintro ⟨tokens, hne, htokens, rfl⟩
    obtain ⟨first, tokens, rfl⟩ := List.exists_cons_of_ne_nil hne
    obtain ⟨hfirst, htokens⟩ := List.forall_mem_cons.mp htokens
    exact isSubject_joined hfirst htokens

theorem eq_dot_or_of_isSubject {begun : Bool} (h : isSubject begun us = true) :
    ∀ u ∈ us, u = dot ∨ isSubjectUnit u = true := by
  induction us generalizing begun with
  | nil => exact List.forall_mem_nil _
  | cons u us ih =>
    rw [isSubject] at h
    split at h
    · rename_i hdot
      exact List.forall_mem_cons.mpr ⟨.inl hdot, ih (Bool.and_eq_true_iff.mp h).2⟩
    · obtain ⟨hu, hrest⟩ := Bool.and_eq_true_iff.mp h
      exact List.forall_mem_cons.mpr ⟨.inr hu, ih hrest⟩

/-- In a dotted text there are no blanks, and nothing that stands for more than one token. -/
theorem Text.IsDotted.plain (h : t.IsDotted tokens) : ∀ u ∈ t.units,
    isBlankCode u.toNat = false ∧ u ≠ unit '*' ∧ u ≠ unit '>' := by
  intro u hu
  rcases eq_dot_or_of_isSubject (isSubject_iff.mpr ⟨tokens, h⟩) u hu with rfl | hunit
  · decide
  · refine ⟨?_, ?_, ?_⟩
    · rcases isSubjectUnit_iff.mp hunit with hletter | hdigit | rfl | rfl
      · simp only [isBlankCode, Bool.or_eq_false_iff, Bool.and_eq_false_iff,
          decide_eq_false_iff_not]
        omega
      · simp only [isBlankCode, Bool.or_eq_false_iff, Bool.and_eq_false_iff,
          decide_eq_false_iff_not]
        omega
      · decide
      · decide
    · rintro rfl
      exact absurd hunit (by decide)
    · rintro rfl
      exact absurd hunit (by decide)

theorem Text.IsDotted.isEmpty_eq_false (h : t.IsDotted tokens) : t.isEmpty = false := by
  have hsubject := isSubject_iff.mpr ⟨tokens, h⟩
  refine List.isEmpty_eq_false_iff.mpr fun heq => ?_
  rw [heq] at hsubject
  exact Bool.false_ne_true hsubject

end Tokens

/-! ## The subjects of the calls -/

/-- What a base of subjects adds to them: no base has no tokens. -/
def IsBaseOf (tokens : List Text) : Option Text → Prop
  | none => tokens = []
  | some base => base.IsDotted tokens

theorem Text.joined_concat {between last : Text} {tokens : List Text} (h : tokens ≠ []) :
    joined between (tokens ++ [last]) = joined between tokens ++ between ++ last := by
  refine Text.ext ?_
  show between.units.intercalate _ = between.units.intercalate _ ++ between.units ++ last.units
  induction tokens with
  | nil => contradiction
  | cons token tokens ih =>
    rw [List.cons_append, List.map_cons, List.map_cons,
      List.intercalate_cons_of_ne_nil (by simp)]
    rcases eq_or_ne tokens [] with rfl | hne
    · rw [List.nil_append, List.map_cons, List.map_nil, List.intercalate_singleton,
        List.intercalate_singleton]
    · rw [ih hne, List.intercalate_cons_of_ne_nil fun heq => hne (List.map_eq_nil_iff.mp heq)]
      simp only [List.append_assoc]

/-- The names of the calls are in lower case already. -/
theorem Method.lower_name (m : Method) : (m.name : Text).lower = m.name := by
  cases m <;> decide +kernel

theorem Method.isToken_name (m : Method) : (m.name : Text).IsToken := by
  rw [Text.isToken_iff, ← List.all_eq_true]
  cases m <;> decide +kernel

section Subjects

variable {base base' : Option Text} {tokens tokens' : List Text} {m m' : Method}

/-- A subject has the tokens of its base, and behind them the name of the call. -/
theorem isDotted_subjectOf (h : IsBaseOf tokens base) (m : Method) :
    (subjectOf base m.name).IsDotted (tokens ++ [(m.name : Text)]) := by
  refine ⟨by simp, ?_, ?_⟩
  · have hbase : ∀ token ∈ tokens, token.IsToken := by
      cases base with
      | none => exact h ▸ List.forall_mem_nil _
      | some base => exact h.each
    exact List.forall_mem_append.mpr ⟨hbase, List.forall_mem_singleton.mpr m.isToken_name⟩
  · cases base with
    | none =>
      obtain rfl : tokens = [] := h
      rw [subjectOf, Option.filter_none, m.lower_name]
      exact Text.ext (List.append_nil _).symm
    | some base =>
      have hdotted : base.IsDotted tokens := h
      rw [Text.joined_concat hdotted.ne, ← hdotted.eq, subjectOf,
        Option.filter_some_pos (by rw [hdotted.isEmpty_eq_false]; rfl), m.lower_name]

/-- Base and call can be told from the subject. -/
theorem eq_of_subjectOf_eq (h : IsBaseOf tokens base) (h' : IsBaseOf tokens' base')
    (heq : subjectOf base m.name = subjectOf base' m'.name) : base = base' ∧ m = m' := by
  have hdotted := isDotted_subjectOf h m
  rw [heq] at hdotted
  obtain ⟨rfl, hname⟩ := List.append_inj' (hdotted.unique (isDotted_subjectOf h' m')) rfl
  refine ⟨?_, ?_⟩
  · cases base <;> cases base'
    · rfl
    · exact absurd h h'.ne
    · exact absurd h' h.ne
    · rw [h.eq, h'.eq]
  · have hlower : (m.name : Text).lower = (m'.name : Text).lower := by
      rw [m.lower_name, m'.lower_name, List.head_eq_of_cons_eq hname]
    exact Method.lower_name_inj hlower

end Subjects

end NodeProbe
