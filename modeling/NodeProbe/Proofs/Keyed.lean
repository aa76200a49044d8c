import Mathlib.Data.List.Nodup

/-!
# Lists with keys

In a list whose items have different keys, what is found by a key is the one item that has it.
-/

namespace NodeProbe

variable {Item Key : Type} [DecidableEq Key] {key : Item → Key} {items : List Item} {item : Item}

theorem find?_key_eq_some_iff (hnodup : (items.map key).Nodup) (k : Key) :
    items.find? (key · = k) = some item ↔ item ∈ items ∧ key item = k := by
  constructor
  · intro h
    exact ⟨List.mem_of_find?_eq_some h, by simpa using List.find?_some h⟩
  · rintro ⟨hmem, rfl⟩
    cases hfound : items.find? (key · = key item) with
    | none => exact absurd (decide_eq_true rfl) (List.find?_eq_none.mp hfound item hmem)
    | some found =>
      have hkey : key found = key item := by simpa using List.find?_some hfound
      exact congrArg some
        (List.inj_on_of_nodup_map hnodup (List.mem_of_find?_eq_some hfound) hmem hkey)

end NodeProbe
