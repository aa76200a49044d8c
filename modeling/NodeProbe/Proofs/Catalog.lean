import Mathlib.Algebra.Order.Ring.Rat
import Mathlib.Data.List.Forall2
import NodeProbe.Catalog
import NodeProbe.Proofs.Keyed

/-!
# Which catalogs are built

A list of entries becomes a catalog if every number of ticks is a whole number above zero and no
call is listed twice; otherwise the first entry that breaks one of the two rules is named
(`Catalog.FirstBad`), and its number of ticks is named before its call. The catalog lists the
entries in their order and keeps what they say (`Catalog.Lists`), so its calls, those that are
enabled, and the one of a name can be told from the list (`Catalog.buildsExactly`).
-/

namespace NodeProbe

namespace CatalogEntry

/-- The number of ticks is a whole number above zero. -/
def IsWhole (entry : CatalogEntry) : Prop :=
  ∃ n : Nat, 0 < n ∧ Decimal.rational? entry.cadence = some (n : ℚ)

/-- The call is made as the entry says, and its result must be what the entry says. -/
structure Describes (entry : CatalogEntry) (spec : MethodSpec) : Prop where
  method_eq : spec.method = entry.method
  enabled_eq : spec.enabled = entry.enabled
  cadence_eq : Decimal.rational? entry.cadence = some (spec.cadence : ℚ)
  shape_eq : spec.shape = entry.shape

/-- What is wrong with an entry behind some calls. The number of ticks counts before the name. -/
inductive IsBad (known : List Method) (entry : CatalogEntry) : ConfigFault → Prop
  | cadence : ¬ entry.IsWhole → entry.IsBad known (.cadence entry.method entry.cadence)
  | duplicate : entry.IsWhole → entry.method ∈ known → entry.IsBad known (.duplicate entry.method)

variable {entry : CatalogEntry} {spec : MethodSpec} {known : List Method}
  {fault fault' : ConfigFault}

theorem Describes.isWhole (h : entry.Describes spec) : entry.IsWhole :=
  ⟨spec.cadence, spec.cadence_pos, h.cadence_eq⟩

theorem IsBad.unique (h : entry.IsBad known fault) (h' : entry.IsBad known fault') :
    fault = fault' := by
  cases h with
  | cadence hbroken =>
    cases h' with
    | cadence => rfl
    | duplicate hwhole => exact absurd hwhole hbroken
  | duplicate hwhole =>
    cases h' with
    | cadence hbroken => exact absurd hwhole hbroken
    | duplicate => rfl

/-- An entry with a whole number of ticks is bad only if its call is there already. -/
theorem IsBad.mem (h : entry.IsBad known fault) (hwhole : entry.IsWhole) :
    entry.method ∈ known := by
  cases h with
  | cadence hbroken => exact absurd hwhole hbroken
  | duplicate _ hknown => exact hknown

end CatalogEntry

namespace Catalog

/-- What is wrong with the first of some entries that cannot be listed behind some calls. -/
inductive FirstBad : List Method → List CatalogEntry → ConfigFault → Prop
  | here {known : List Method} {entry : CatalogEntry} {entries : List CatalogEntry}
    {fault : ConfigFault} : entry.IsBad known fault → FirstBad known (entry :: entries) fault
  | later {known : List Method} {entry : CatalogEntry} {entries : List CatalogEntry}
    {fault : ConfigFault} : entry.IsWhole → entry.method ∉ known →
    FirstBad (known ++ [entry.method]) entries fault → FirstBad known (entry :: entries) fault

/-- The catalog lists these entries, in this order. -/
def Lists (catalog : Catalog) (entries : List CatalogEntry) : Prop :=
  List.Forall₂ CatalogEntry.Describes entries catalog.specs

/-! ## One entry -/

theorem cadence?_eq_some_iff {x : Float} {cadence : { n : Nat // 0 < n }} :
    cadence? x = some cadence ↔ Decimal.rational? x = some (cadence.1 : ℚ) := by
  unfold cadence?
  cases hx : Decimal.rational? x with
  | none => simp
  | some q =>
    simp only [Option.some_inj]
    constructor
    · intro h
      split at h
      · rename_i hq
        cases h
        have hnum : ((q.num.toNat : Int) : ℚ) = q.num := by rw [Int.toNat_of_nonneg hq.2.le]
        rw [← Int.cast_natCast, hnum, Rat.coe_int_num_of_den_eq_one hq.1]
      · cases h
    · rintro rfl
      have hwhole : (cadence.1 : ℚ).den = 1 ∧ 0 < (cadence.1 : ℚ).num :=
        ⟨Rat.den_natCast _, by rw [Rat.num_natCast]; exact_mod_cast cadence.2⟩
      rw [dif_pos hwhole]
      refine congrArg some (Subtype.ext ?_)
      show (cadence.1 : ℚ).num.toNat = cadence.1
      rw [Rat.num_natCast, Int.toNat_natCast]

theorem cadence?_eq_none_iff {entry : CatalogEntry} :
    cadence? entry.cadence = none ↔ ¬ entry.IsWhole := by
  rw [Option.eq_none_iff_forall_ne_some]
  constructor
  · rintro h ⟨n, hn, hq⟩
    exact h ⟨n, hn⟩ (cadence?_eq_some_iff.mpr hq)
  · intro h cadence heq
    exact h ⟨cadence.1, cadence.2, cadence?_eq_some_iff.mp heq⟩

/-- What becomes of an entry: it is listed behind the calls that are there, or it is bad. -/
inductive Adds (catalog : Catalog) (entry : CatalogEntry) : Except ConfigFault Catalog → Prop
  | listed {spec : MethodSpec} {next : Catalog} : entry.Describes spec →
    entry.method ∉ catalog.specs.map (·.method) → next.specs = catalog.specs ++ [spec] →
    Adds catalog entry (.ok next)
  | refused {fault : ConfigFault} : entry.IsBad (catalog.specs.map (·.method)) fault →
    Adds catalog entry (.error fault)

theorem adds_add (catalog : Catalog) (entry : CatalogEntry) :
    Adds catalog entry (catalog.add entry) := by
  unfold add
  split
  · rename_i hnone
    exact .refused (.cadence (cadence?_eq_none_iff.mp hnone))
  · rename_i cadence hcadence
    have hvalue := cadence?_eq_some_iff.mp hcadence
    split
    · rename_i hknown
      exact .refused (.duplicate ⟨cadence.1, cadence.2, hvalue⟩ hknown)
    · rename_i hnew
      exact .listed ⟨rfl, rfl, hvalue, rfl⟩ hnew rfl

/-! ## All entries -/

section All

variable {known : List Method} {entries : List CatalogEntry} {fault fault' : ConfigFault}

theorem FirstBad.unique (h : FirstBad known entries fault) (h' : FirstBad known entries fault') :
    fault = fault' := by
  induction h with
  | here hbad =>
    cases h' with
    | here hbad' => exact hbad.unique hbad'
    | later hwhole hnew => exact absurd (hbad.mem hwhole) hnew
  | later hwhole hnew _ ih =>
    cases h' with
    | here hbad => exact absurd (hbad.mem hwhole) hnew
    | later _ _ h' => exact ih h'

/-- If an entry is bad, the number of ticks of one is, or a call is there twice. -/
theorem FirstBad.not_all (h : FirstBad known entries fault) :
    ¬ ((∀ entry ∈ entries, entry.IsWhole) ∧ (known ++ entries.map (·.method)).Nodup) := by
  induction h with
  | @here known entry entries fault hbad =>
    rintro ⟨hwhole, hdistinct⟩
    have hknown := hbad.mem (hwhole entry List.mem_cons_self)
    exact (List.nodup_append.mp hdistinct).2.2 _ hknown _ List.mem_cons_self rfl
  | later _ _ _ ih =>
    rintro ⟨hwhole, hdistinct⟩
    refine ih ⟨fun entry hentry => hwhole entry (List.mem_cons_of_mem _ hentry), ?_⟩
    rwa [List.append_assoc]

/-- What becomes of some entries behind the calls of a catalog. -/
inductive Builds (catalog : Catalog) (entries : List CatalogEntry) :
    Except ConfigFault Catalog → Prop
  | listed {specs : List MethodSpec} {whole : Catalog} :
    List.Forall₂ CatalogEntry.Describes entries specs → whole.specs = catalog.specs ++ specs →
    Builds catalog entries (.ok whole)
  | refused {fault : ConfigFault} : FirstBad (catalog.specs.map (·.method)) entries fault →
    Builds catalog entries (.error fault)

theorem builds_foldlM (catalog : Catalog) (entries : List CatalogEntry) :
    Builds catalog entries (entries.foldlM add catalog) := by
  induction entries generalizing catalog with
  | nil => exact .listed .nil (List.append_nil _).symm
  | cons entry entries ih =>
    rw [List.foldlM_cons]
    have hadds := adds_add catalog entry
    generalize catalog.add entry = added at hadds ⊢
    cases hadds with
    | refused hbad => exact .refused (.here hbad)
    | @listed spec next hdescribes hnew hspecs =>
      show Builds catalog (entry :: entries) (entries.foldlM add next)
      have hbuilds := ih next
      generalize entries.foldlM add next = result at hbuilds ⊢
      cases hbuilds with
      | listed hall heq =>
        refine .listed (.cons hdescribes hall) ?_
        rw [heq, hspecs, List.append_assoc, List.singleton_append]
      | refused hbad =>
        refine .refused (.later hdescribes.isWhole hnew ?_)
        rwa [hspecs, List.map_append, List.map_singleton, hdescribes.method_eq] at hbad

/-- A list of entries becomes a catalog that lists them, or its first bad entry is named. -/
theorem ofEntries_cases (entries : List CatalogEntry) :
    (∃ catalog, ofEntries entries = .ok catalog ∧ catalog.Lists entries) ∨
      ∃ fault, ofEntries entries = .error fault ∧ FirstBad [] entries fault := by
  have hbuilds : Builds empty entries (ofEntries entries) := builds_foldlM empty entries
  generalize ofEntries entries = result at hbuilds ⊢
  cases hbuilds with
  | @listed specs catalog hall heq =>
    refine .inl ⟨catalog, rfl, ?_⟩
    rwa [Lists, heq]
  | refused hbad => exact .inr ⟨_, rfl, hbad⟩

end All

/-! ## What a catalog lists -/

/-- The call of a name is the only one that has it. -/
theorem get?_eq_some_iff {catalog : Catalog} {m : Method} {spec : MethodSpec} :
    catalog.get? m = some spec ↔ spec ∈ catalog.specs ∧ spec.method = m :=
  find?_key_eq_some_iff catalog.distinct m

theorem get?_eq_none_iff {catalog : Catalog} {m : Method} :
    catalog.get? m = none ↔ m ∉ catalog.specs.map (·.method) := by
  simp [get?, List.find?_eq_none]

namespace Lists

variable {catalog : Catalog} {entries : List CatalogEntry} (h : catalog.Lists entries)
include h

theorem map_method : catalog.specs.map (·.method) = entries.map (·.method) := by
  have hnames : List.Forall₂ (· = ·) (entries.map (·.method)) (catalog.specs.map (·.method)) :=
    List.rel_map (fun _ _ hspec => hspec.method_eq.symm) h
  rw [List.forall₂_eq_eq_eq] at hnames
  exact hnames.symm

/-- What can be listed: whole numbers of ticks, and no call twice. -/
theorem listable : (∀ entry ∈ entries, entry.IsWhole) ∧ (entries.map (·.method)).Nodup := by
  have hwhole : List.Forall₂ (fun entry spec => entry.IsWhole ∧ entry.Describes spec)
      entries catalog.specs := h.imp fun _ _ hspec => ⟨hspec.isWhole, hspec⟩
  exact ⟨((List.forall₂_and_left _ _).mp hwhole).1, h.map_method ▸ catalog.distinct⟩

/-- Every call that is listed comes from an entry. -/
theorem exists_entry {spec : MethodSpec} (hspec : spec ∈ catalog.specs) :
    ∃ entry ∈ entries, entry.Describes spec := by
  obtain ⟨i, hi, rfl⟩ := List.getElem_of_mem hspec
  have hlt : i < entries.length := List.Forall₂.length_eq h ▸ hi
  exact ⟨entries[i], List.getElem_mem hlt, List.Forall₂.get h hlt hi⟩

theorem enabled : List.Forall₂ CatalogEntry.Describes (entries.filter (·.enabled))
    catalog.enabled :=
  List.rel_filter (fun entry spec hspec => by
    show entry.enabled = true ↔ spec.enabled = true
    rw [hspec.enabled_eq]) h

end Lists

/-- What is built from a list of entries. -/
structure BuildsExactly (entries : List CatalogEntry) : Prop where
  /-- There is a catalog if every number of ticks is a whole number above zero and no call is listed
  twice. -/
  accepts : (∃ catalog, ofEntries entries = .ok catalog) ↔
    (∀ entry ∈ entries, entry.IsWhole) ∧ (entries.map (·.method)).Nodup
  /-- It lists the entries in their order. -/
  lists : ∀ catalog, ofEntries entries = .ok catalog → catalog.Lists entries
  size : ∀ catalog, ofEntries entries = .ok catalog → catalog.size = entries.length
  /-- The calls that are made are those of the entries that are enabled, in their order. -/
  enabled : ∀ catalog, ofEntries entries = .ok catalog →
    List.Forall₂ CatalogEntry.Describes (entries.filter (·.enabled)) catalog.enabled
  /-- What is found under a name is the one call that is listed under it. -/
  finds : ∀ catalog, ofEntries entries = .ok catalog → ∀ m spec,
    catalog.get? m = some spec ↔ spec ∈ catalog.specs ∧ spec.method = m
  /-- It is made as an entry of that name says, and its result must be what the entry says. -/
  passes : ∀ catalog, ofEntries entries = .ok catalog → ∀ m spec, catalog.get? m = some spec →
    ∃ entry ∈ entries, entry.method = m ∧ entry.Describes spec
  /-- Nothing is found under a name that no entry has. -/
  misses : ∀ catalog, ofEntries entries = .ok catalog → ∀ m,
    catalog.get? m = none ↔ m ∉ entries.map (·.method)
  /-- Otherwise the first bad entry is named. -/
  refuses : ∀ fault, ofEntries entries = .error fault ↔ FirstBad [] entries fault

/-- **A list of entries becomes a catalog exactly if all numbers of ticks are whole and no call is
listed twice; the catalog lists the entries in their order, and otherwise the first bad entry is
named.** -/
theorem buildsExactly (entries : List CatalogEntry) : BuildsExactly entries := by
  rcases ofEntries_cases entries with ⟨catalog, hok, hlists⟩ | ⟨fault, herror, hbad⟩
  · have hsame {catalog' : Catalog} (h : ofEntries entries = .ok catalog') : catalog' = catalog :=
      Except.ok.inj (h.symm.trans hok)
    exact
      { accepts := iff_of_true ⟨catalog, hok⟩ hlists.listable
        lists := fun _ h => hsame h ▸ hlists
        size := fun _ h => hsame h ▸ hlists.length_eq.symm
        enabled := fun _ h => hsame h ▸ hlists.enabled
        finds := fun _ _ _ _ => get?_eq_some_iff
        passes := fun _ h m spec hspec => by
          obtain ⟨hmem, rfl⟩ := get?_eq_some_iff.mp hspec
          obtain ⟨entry, hentry, hdescribes⟩ := (hsame h ▸ hlists).exists_entry hmem
          exact ⟨entry, hentry, hdescribes.method_eq.symm, hdescribes⟩
        misses := fun _ h _ => by rw [hsame h, get?_eq_none_iff, hlists.map_method]
        refuses := fun _ => iff_of_false (by rw [hok]; nofun) fun h => h.not_all hlists.listable }
  · have hnone (catalog : Catalog) : ofEntries entries ≠ .ok catalog := by
      rw [herror]
      nofun
    exact
      { accepts := iff_of_false (fun ⟨catalog, h⟩ => hnone catalog h) hbad.not_all
        lists := fun _ h => absurd h (hnone _)
        size := fun _ h => absurd h (hnone _)
        enabled := fun _ h => absurd h (hnone _)
        finds := fun _ h => absurd h (hnone _)
        passes := fun _ h => absurd h (hnone _)
        misses := fun _ h => absurd h (hnone _)
        refuses := fun fault' => by
          rw [herror, Except.error.injEq]
          exact ⟨fun h => h ▸ hbad, hbad.unique⟩ }

end Catalog

end NodeProbe
