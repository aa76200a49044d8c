import Mathlib.Data.List.DropRight
import NodeProbe.Rpc.Credentials

/-!
# Where the credentials come from

What a call says about who makes it, in words (`NodeAccess.Gives`): the trimmed content of the
cookie file if one is named, and the user and the password of the settings otherwise. To cut the
content at its first colon and to join it again changes nothing (`Credentials.joined_of_split?`), so
this is what the credentials are (`gives_iff`).
-/

namespace NodeProbe

/-! ## Trimming -/

namespace Text

/-- What is left of some characters when the blanks at both ends are gone. -/
structure IsTrimmed (cs trimmed : List Char) : Prop where
  cut : ∃ front back, cs = front ++ trimmed ++ back ∧
    (∀ c ∈ front, isBlank c = true) ∧ ∀ c ∈ back, isBlank c = true
  head : ∀ c ∈ trimmed.head?, isBlank c = false
  last : ∀ c ∈ trimmed.getLast?, isBlank c = false

theorem dropWhile_isBlank_append {front cs : List Char} (hfront : ∀ c ∈ front, isBlank c = true)
    (hhead : ∀ c ∈ cs.head?, isBlank c = false) : (front ++ cs).dropWhile isBlank = cs := by
  rw [List.dropWhile_append_of_pos hfront]
  cases cs with
  | nil => rfl
  | cons c rest => rw [List.dropWhile_cons_of_neg (by simp [hhead c rfl])]

theorem head?_dropWhile_isBlank (cs : List Char) :
    ∀ c ∈ (cs.dropWhile isBlank).head?, isBlank c = false := by
  intro c hc
  have := List.head?_dropWhile_not isBlank cs
  rw [hc] at this
  simpa using this

theorem isTrimmed_trimChars (cs : List Char) : IsTrimmed cs (trimChars cs) := by
  have hback := List.takeWhile_append_dropWhile (p := isBlank) (l := (cs.dropWhile isBlank).reverse)
  refine ⟨⟨cs.takeWhile isBlank, ((cs.dropWhile isBlank).reverse.takeWhile isBlank).reverse,
    ?_, fun c hc => List.mem_takeWhile_imp hc, fun c hc => ?_⟩, ?_, ?_⟩
  · rw [List.append_assoc, trimChars, ← List.reverse_append, hback, List.reverse_reverse,
      List.takeWhile_append_dropWhile]
  · exact List.mem_takeWhile_imp (List.mem_reverse.mp hc)
  · intro c hc
    -- The end was trimmed last, and that leaves the beginning as it is.
    obtain ⟨more, hmore⟩ : trimChars cs <+: cs.dropWhile isBlank := List.rdropWhile_prefix isBlank _
    refine head?_dropWhile_isBlank cs c ?_
    rw [← hmore, List.head?_append, Option.mem_def.mp hc]
    rfl
  · intro c hc
    rw [trimChars, List.getLast?_reverse] at hc
    exact head?_dropWhile_isBlank _ c hc

/-- There is one way to trim. -/
theorem isTrimmed_iff {cs trimmed : List Char} : IsTrimmed cs trimmed ↔ trimChars cs = trimmed := by
  constructor
  · rintro ⟨⟨front, back, rfl, hfront, hback⟩, hhead, hlast⟩
    rw [trimChars, List.append_assoc]
    by_cases hempty : trimmed = []
    · subst hempty
      rw [List.nil_append, List.dropWhile_append_of_pos hfront,
        List.dropWhile_eq_nil_iff.mpr fun c hc => hback c hc]
      rfl
    · rw [dropWhile_isBlank_append hfront (by rwa [List.head?_append_of_ne_nil _ hempty]),
        List.reverse_append, dropWhile_isBlank_append (by simpa using hback)
          (by rwa [List.head?_reverse]), List.reverse_reverse]
  · rintro rfl
    exact isTrimmed_trimChars cs

theorem ofChars_append (cs ds : List Char) : ofChars (cs ++ ds) = ofChars cs ++ ofChars ds :=
  Text.ext List.flatMap_append

end Text

/-! ## Cutting and joining -/

namespace Credentials

variable {cs : List Char} {credentials : Credentials}

theorem split?_eq_some_iff :
    split? cs = some credentials ↔ ∃ user password, cs = user ++ ':' :: password ∧ user ≠ [] ∧
      ':' ∉ user ∧ credentials = ⟨.ofChars user, .ofChars password⟩ := by
  constructor
  · intro h
    have hcs := List.takeWhile_append_dropWhile (p := (· ≠ ':')) (l := cs)
    have hhead := List.head?_dropWhile_not (· ≠ ':') cs
    have huser : ':' ∉ cs.takeWhile (· ≠ ':') := fun hmem => by
      simpa using List.mem_takeWhile_imp hmem
    unfold split? at h
    split at h
    · cases h
    · cases h
    · rename_i colon password hdrop hne
      rw [hdrop] at hcs hhead
      obtain rfl : colon = ':' := by simpa using hhead
      exact ⟨_, password, hcs.symm, hne, huser, (Option.some.inj h).symm⟩
  · rintro ⟨user, password, rfl, hne, hnot, rfl⟩
    have hbefore : ∀ c ∈ user, (decide (c ≠ ':')) = true := by
      intro c hc
      exact decide_eq_true fun heq => hnot (heq ▸ hc)
    unfold split?
    rw [List.takeWhile_append_of_pos hbefore, List.dropWhile_append_of_pos hbefore,
      List.takeWhile_cons_of_neg (by simp), List.dropWhile_cons_of_neg (by simp), List.append_nil]
    cases user with
    | nil => exact absurd rfl hne
    | cons c rest => rfl

/-- What was cut at a colon is joined at it again. -/
theorem joined_of_split? (h : split? cs = some credentials) : credentials.joined = .ofChars cs := by
  obtain ⟨user, password, rfl, -, -, rfl⟩ := split?_eq_some_iff.mp h
  have hcolon : (":" : Text) ++ Text.ofChars password = .ofChars (':' :: password) :=
    (Text.ofChars_append [':'] password).symm
  rw [Text.ofChars_append, ← hcolon]
  exact Text.ext (List.append_assoc _ _ _)

theorem isSome_split?_iff : (split? cs).isSome ↔ ':' ∈ cs ∧ cs.head? ≠ some ':' := by
  rw [Option.isSome_iff_exists]
  constructor
  · rintro ⟨credentials, h⟩
    obtain ⟨user, password, rfl, hne, hnot, -⟩ := split?_eq_some_iff.mp h
    refine ⟨by simp, fun hhead => ?_⟩
    rw [List.head?_append_of_ne_nil _ hne] at hhead
    exact hnot (List.mem_of_mem_head? hhead)
  · rintro ⟨hmem, hhead⟩
    obtain ⟨user, password, rfl, hnot⟩ := List.eq_append_cons_of_mem hmem
    have hne : user ≠ [] := by
      rintro rfl
      exact hhead rfl
    exact ⟨_, split?_eq_some_iff.mpr ⟨user, password, rfl, hne, hnot, rfl⟩⟩

end Credentials

/-! ## What is given -/

namespace NodeAccess

/-- No cookie file is named. -/
def IsCookieless (access : NodeAccess) : Prop :=
  ∀ file, access.cookieFile = some file → file = ""

/-- The credentials of the next call in one text, or why there are none. -/
inductive Gives (files : Files) (access : NodeAccess) : Except AuthCause Text → Prop
  | cookie {file : Text} {content : String} {trimmed : List Char} :
    access.cookieFile = some file → file ≠ "" → files.readText file = .ok content →
    Text.IsTrimmed content.toList trimmed → ':' ∈ trimmed → trimmed.head? ≠ some ':' →
    Gives files access (.ok (.ofChars trimmed))
  | unreadable {file : Text} {fault : FileFault} :
    access.cookieFile = some file → file ≠ "" → files.readText file = .error fault →
    Gives files access (.error (.unreadableCookie file fault.message))
  | malformed {file : Text} {content : String} {trimmed : List Char} :
    access.cookieFile = some file → file ≠ "" → files.readText file = .ok content →
    Text.IsTrimmed content.toList trimmed → ':' ∉ trimmed ∨ trimmed.head? = some ':' →
    Gives files access (.error (.malformedCookie file))
  | settings {user password : Text} :
    access.IsCookieless → access.user = some user → user ≠ "" → access.password = some password →
    Gives files access (.ok (user ++ ":" ++ password))
  | missing :
    access.IsCookieless →
    (∀ user, access.user = some user → user = "") ∨ access.password = none →
    Gives files access (.error .noCredentials)

variable {files : Files} {access : NodeAccess} {given : Except AuthCause Text}

theorem gives_resolve (files : Files) (access : NodeAccess) :
    Gives files access ((Credentials.resolve files access).map Credentials.joined) := by
  unfold Credentials.resolve
  cases hfile : access.cookieFile.filter (!·.isEmpty) with
  | some file =>
    obtain ⟨hnamed, hne⟩ := Text.filter_isEmpty_eq_some_iff.mp hfile
    simp only [Credentials.ofCookie]
    cases hread : files.readText file with
    | error fault => exact .unreadable hnamed hne hread
    | ok content =>
      have htrimmed := Text.isTrimmed_trimChars content.toList
      cases hsplit : Credentials.split? (Text.trimChars content.toList) with
      | some credentials =>
        obtain ⟨hcolon, hhead⟩ :=
          Credentials.isSome_split?_iff.mp (Option.isSome_of_eq_some hsplit)
        simp only [hsplit, Except.map, Credentials.joined_of_split? hsplit]
        exact .cookie hnamed hne hread htrimmed hcolon hhead
      | none =>
        have hbad := mt Credentials.isSome_split?_iff.mpr (Option.not_isSome_iff_eq_none.mpr hsplit)
        rw [not_and_or, not_not] at hbad
        simp only [hsplit]
        exact .malformed hnamed hne hread htrimmed hbad
  | none =>
    have hcookieless : access.IsCookieless := Text.filter_isEmpty_eq_none_iff.mp hfile
    cases huser : access.user.filter (!·.isEmpty) with
    | none => exact .missing hcookieless (.inl (Text.filter_isEmpty_eq_none_iff.mp huser))
    | some user =>
      obtain ⟨hnamed, hne⟩ := Text.filter_isEmpty_eq_some_iff.mp huser
      cases hpassword : access.password with
      | none => exact .missing hcookieless (.inr hpassword)
      | some password => exact .settings hcookieless hnamed hne hpassword

/-- What is given is the text of the credentials. -/
theorem gives_iff :
    Gives files access given ↔
      (Credentials.resolve files access).map Credentials.joined = given := by
  constructor
  · intro h
    unfold Credentials.resolve
    cases h with
    | cookie hnamed hne hread htrimmed hcolon hhead =>
      rw [Text.filter_isEmpty_eq_some_iff.mpr ⟨hnamed, hne⟩]
      obtain ⟨credentials, hsplit⟩ :=
        Option.isSome_iff_exists.mp (Credentials.isSome_split?_iff.mpr ⟨hcolon, hhead⟩)
      simp only [Credentials.ofCookie, hread, Text.isTrimmed_iff.mp htrimmed, hsplit]
      exact congrArg Except.ok (Credentials.joined_of_split? hsplit)
    | unreadable hnamed hne hread =>
      rw [Text.filter_isEmpty_eq_some_iff.mpr ⟨hnamed, hne⟩]
      simp only [Credentials.ofCookie, hread]
      rfl
    | malformed hnamed hne hread htrimmed hbad =>
      rw [Text.filter_isEmpty_eq_some_iff.mpr ⟨hnamed, hne⟩]
      have hsplit := mt Credentials.isSome_split?_iff.mp (by rwa [not_and_or, not_not])
      rw [Option.not_isSome_iff_eq_none] at hsplit
      simp only [Credentials.ofCookie, hread, Text.isTrimmed_iff.mp htrimmed, hsplit]
      rfl
    | settings hcookieless hnamed hne hpassword =>
      rw [Text.filter_isEmpty_eq_none_iff.mpr hcookieless,
        Text.filter_isEmpty_eq_some_iff.mpr ⟨hnamed, hne⟩, hpassword]
      rfl
    | missing hcookieless hmissing =>
      rw [Text.filter_isEmpty_eq_none_iff.mpr hcookieless]
      rcases hmissing with huser | hpassword
      · rw [Text.filter_isEmpty_eq_none_iff.mpr huser]
        rfl
      · rw [hpassword]
        cases access.user.filter (!·.isEmpty) <;> rfl
  · rintro rfl
    exact gives_resolve files access

theorem gives_error_or_gives (access : NodeAccess) (files : Files) :
    (∃ cause, access.Gives files (.error cause)) ∨ ∃ secret, access.Gives files (.ok secret) := by
  have hgives := gives_resolve files access
  cases hresolve : (Credentials.resolve files access).map Credentials.joined with
  | ok secret => exact .inr ⟨secret, hresolve ▸ hgives⟩
  | error cause => exact .inl ⟨cause, hresolve ▸ hgives⟩

end NodeAccess

end NodeProbe
