import NodeProbe.Fault

/-!
# The catalog

A catalog lists the calls that are made, each with whether it is enabled, the number of ticks
between two calls and the shape that its result has. `Catalog.ofEntries` checks a list of entries:
every number of ticks is a whole number above zero, and no call is listed twice. Nothing is asked of
the shapes, which are passed through.
-/

namespace NodeProbe

/-- An entry that has not been checked. -/
structure CatalogEntry where
  method : Method
  enabled : Bool
  cadence : Float
  shape : Shape

/-- How one call is made. -/
structure MethodSpec where
  method : Method
  enabled : Bool
  /-- The number of ticks between two calls. -/
  cadence : Nat
  cadence_pos : 0 < cadence
  /-- What the result must be. -/
  shape : Shape

/-- The calls, each listed once. -/
structure Catalog where
  specs : List MethodSpec
  distinct : (specs.map (·.method)).Nodup

namespace Catalog

/-- The cadence of an entry, if it is a whole number above zero. -/
def cadence? (x : Float) : Option { n : Nat // 0 < n } :=
  match Decimal.rational? x with
  | some q =>
    if h : q.den = 1 ∧ 0 < q.num then some ⟨q.num.toNat, Int.pos_iff_toNat_pos.mp h.2⟩ else none
  | none => none

/-- The catalog with one more call at its end. The cadence is looked at before the name. -/
def add (catalog : Catalog) (entry : CatalogEntry) : Except ConfigFault Catalog :=
  match cadence? entry.cadence with
  | none => .error (.cadence entry.method entry.cadence)
  | some cadence =>
    if known : entry.method ∈ catalog.specs.map (·.method) then .error (.duplicate entry.method)
    else
      .ok
        { specs :=
            catalog.specs ++ [⟨entry.method, entry.enabled, cadence.1, cadence.2, entry.shape⟩]
          distinct := by
            rw [List.map_append, List.nodup_append]
            refine ⟨catalog.distinct, by simp, ?_⟩
            intro a ha b hb
            rw [List.map_singleton, List.mem_singleton] at hb
            subst hb
            rintro rfl
            exact known ha }

/-- The catalog without a call. -/
def empty : Catalog :=
  ⟨[], .nil⟩

/-- The catalog of a list of entries, or the fault of the first entry that has one. -/
def ofEntries (entries : List CatalogEntry) : Except ConfigFault Catalog :=
  entries.foldlM add empty

/-- A call at its own cadence. -/
def standardSpec (disabled : List Method) (method : Method) : MethodSpec :=
  { method
    enabled := !disabled.contains method
    cadence := method.cadence
    cadence_pos := by cases method <;> decide
    shape := method.shape }

/-- The catalog of all calls, some of them disabled. -/
def ofDisabled (disabled : List Method) : Catalog where
  specs := Method.all.map (standardSpec disabled)
  distinct := by
    rw [List.map_map]
    exact (by decide : (Method.all.map id).Nodup)

/-- The number of calls. -/
def size (catalog : Catalog) : Nat :=
  catalog.specs.length

/-- The calls that are made. -/
def enabled (catalog : Catalog) : List MethodSpec :=
  catalog.specs.filter (·.enabled)

/-- The call of a name. -/
def get? (catalog : Catalog) (method : Method) : Option MethodSpec :=
  catalog.specs.find? (·.method = method)

end Catalog

end NodeProbe
