import NodeProbe.Json.Parser
import NodeProbe.Proofs.Json.Lexing

/-!
# A printed value reads back

The parser goes through the tokens of a value with whatever lies on its stack and comes out behind
the value (`parseFrom_ofValue`), provided that the fields of its objects stand in their places
(`IsOrdered`). They always do in a value that was read (`isOrdered_parse?`). So the text of a value
reads back as the value as written (`parse?_print`).
-/

namespace NodeProbe.Json

/-! ## The order of fields -/

/-- The second field may stand behind the first one. -/
def MayFollow (first second : Text × Json) : Prop :=
  first.1 ≠ second.1 ∧ precedes second.1 first.1 = false

mutual

/-- The fields of all objects in the value stand in their places, no two with one key. -/
def IsOrdered : Json → Prop
  | null | bool _ | number _ | string _ => True
  | array items => ItemsOrdered items
  | object fields => fields.Pairwise MayFollow ∧ FieldsOrdered fields

/-- The elements of a list are in order. -/
def ItemsOrdered : List Json → Prop
  | [] => True
  | v :: rest => IsOrdered v ∧ ItemsOrdered rest

/-- The values of the fields are in order. -/
def FieldsOrdered : List (Text × Json) → Prop
  | [] => True
  | (_, v) :: rest => IsOrdered v ∧ FieldsOrdered rest

end

section Put

variable {key : Text} {value : Json} {fields done : List (Text × Json)}

/-- A field that may stand behind all others comes last. -/
theorem put_of_mayFollow (h : ∀ f ∈ done, MayFollow f (key, value)) :
    put key value done = done ++ [(key, value)] := by
  induction done with
  | nil => rfl
  | cons f done ih =>
    obtain ⟨k, v⟩ := f
    obtain ⟨hne, hprecedes⟩ := h (k, v) List.mem_cons_self
    dsimp only at hne hprecedes
    rw [put, if_neg hne, hprecedes, if_neg Bool.false_ne_true,
      ih fun f hf => h f (List.mem_cons_of_mem _ hf)]
    rfl

theorem foldl_put (h : (done ++ fields).Pairwise MayFollow) :
    fields.foldl (fun done f => put f.1 f.2 done) done = done ++ fields := by
  induction fields generalizing done with
  | nil => rw [List.foldl_nil, List.append_nil]
  | cons f fields ih =>
    have hlast : ∀ g ∈ done, MayFollow g f := fun g hg =>
      (List.pairwise_append.mp h).2.2 g hg f List.mem_cons_self
    rw [List.foldl_cons, put_of_mayFollow hlast, ih, List.append_assoc, List.singleton_append]
    rw [List.append_assoc, List.singleton_append]
    exact h

/-- Fields that stand in their places stay there. -/
theorem arrange_of_pairwise (h : fields.Pairwise MayFollow) : arrange fields = fields :=
  foldl_put h

end Put

theorem precedes_iff {a b : Text} : precedes a b = true ↔
    ∃ i, index? a = some i ∧ ∀ j, index? b = some j → i < j := by
  unfold precedes
  cases index? a with
  | none => simp
  | some i =>
    cases index? b with
    | none => simp
    | some j => simp

theorem precedes_trans {a b c : Text} (hab : precedes a b = true) (hbc : precedes b c = true) :
    precedes a c = true := by
  rw [precedes_iff] at hab hbc ⊢
  obtain ⟨i, hi, hij⟩ := hab
  obtain ⟨j, hj, hjk⟩ := hbc
  exact ⟨i, hi, fun k hk => (hij j hj).trans (hjk k hk)⟩

theorem precedes_asymm {a b : Text} (hab : precedes a b = true) : precedes b a = false := by
  rw [Bool.eq_false_iff]
  intro hba
  rw [precedes_iff] at hab hba
  obtain ⟨i, hi, hij⟩ := hab
  obtain ⟨j, hj, hji⟩ := hba
  exact (hij j hj).asymm (hji i hi)

theorem fieldsAsWritten_keys (fields : List (Text × Json)) :
    (fieldsAsWritten fields).map (·.1) = fields.map (·.1) := by
  induction fields with
  | nil => rfl
  | cons f fields ih =>
    rw [fieldsAsWritten, List.map_cons, List.map_cons, ih]

/-- Only keys decide about the places of fields. -/
theorem pairwise_mayFollow_iff {fields : List (Text × Json)} : fields.Pairwise MayFollow ↔
    (fields.map (·.1)).Pairwise fun k l => k ≠ l ∧ precedes l k = false := by
  rw [List.pairwise_map]
  rfl

theorem pairwise_fieldsAsWritten {fields : List (Text × Json)} (h : fields.Pairwise MayFollow) :
    (fieldsAsWritten fields).Pairwise MayFollow := by
  rw [pairwise_mayFollow_iff] at h ⊢
  rwa [fieldsAsWritten_keys]

/-! ## Reading the tokens -/

section Parse

open Token

theorem parseFrom_step {stack stack' : List Frame} {expected expected' : Expectation} {t : Token}
    (h : advance stack expected t = some (stack', expected')) (rest : List Token) :
    parseFrom stack expected (t :: rest) = parseFrom stack' expected' rest := by
  rw [parseFrom, h]

theorem exists_ofItems_eq (v : Json) (items : List Json) :
    ∃ tail, ofItems (v :: items) = ofValue v ++ tail := by
  cases items with
  | nil => exact ⟨[], (List.append_nil _).symm⟩
  | cons w items => exact ⟨_, ofItems_cons_cons v w items⟩

/-- A list that is not empty begins like a list that has begun. -/
theorem parseFrom_firstItem (v : Json) (items : List Json) (stack : List Frame)
    (rest : List Token) :
    parseFrom stack .firstItem (ofItems (v :: items) ++ rest) =
      parseFrom (.items [] :: stack) .value (ofItems (v :: items) ++ rest) := by
  obtain ⟨tail, htail⟩ := exists_ofItems_eq v items
  rw [htail, List.append_assoc]
  cases v <;> rfl

/-- An object that is not empty begins like an object that has begun. -/
theorem parseFrom_firstKey (k : Text) (v : Json) (fields : List (Text × Json))
    (stack : List Frame) (rest : List Token) :
    parseFrom stack .firstKey (ofFields ((k, v) :: fields) ++ rest) =
      parseFrom stack (.key []) (ofFields ((k, v) :: fields) ++ rest) := by
  cases fields <;> rfl

mutual

/-- The parser comes out behind the value. -/
theorem parseFrom_ofValue : ∀ (v : Json) (stack : List Frame) (rest : List Token), IsOrdered v →
    parseFrom stack .value (ofValue v ++ rest) = parseFrom stack (.behind (asWritten v)) rest
  | .null, _, _, _ | .bool _, _, _, _ | .number _, _, _, _ | .string _, _, _, _ => rfl
  | .array items, stack, rest, h => by
    have hitems := parseFrom_ofItems items [] stack rest h
    cases items with
    | nil => rfl
    | cons v items =>
      have hopen : advance stack .value beginArray = some (stack, .firstItem) := rfl
      rw [ofValue, List.cons_append, List.cons_append, parseFrom_step hopen, List.append_assoc,
        List.singleton_append, parseFrom_firstItem, hitems (List.cons_ne_nil v items)]
      rfl
  | .object fields, stack, rest, h => by
    have hfields := parseFrom_ofFields fields [] stack rest h.2
    cases fields with
    | nil => rfl
    | cons f fields =>
      have hopen : advance stack .value beginObject = some (stack, .firstKey) := rfl
      rw [ofValue, List.cons_append, List.cons_append, parseFrom_step hopen, List.append_assoc,
        List.singleton_append, parseFrom_firstKey, hfields (List.cons_ne_nil f fields),
        List.reverse_nil, List.nil_append, arrange_of_pairwise (pairwise_fieldsAsWritten h.1)]
      rfl

/-- The elements of a list, behind those that have been read. -/
theorem parseFrom_ofItems : ∀ (items begun : List Json) (stack : List Frame) (rest : List Token),
    ItemsOrdered items → items ≠ [] →
    parseFrom (.items begun :: stack) .value (ofItems items ++ endArray :: rest) =
      parseFrom stack (.behind (array (begun.reverse ++ itemsAsWritten items))) rest
  | [], _, _, _, _, h => absurd rfl h
  | [v], begun, stack, rest, h, _ => by
    have hclose : advance (.items begun :: stack) (.behind (asWritten v)) endArray =
        some (stack, .behind (array (asWritten v :: begun).reverse)) := rfl
    rw [ofItems, parseFrom_ofValue v _ _ h.1, parseFrom_step hclose, List.reverse_cons]
    rfl
  | v :: w :: items, begun, stack, rest, h, _ => by
    have hcomma : advance (.items begun :: stack) (.behind (asWritten v)) comma =
        some (.items (asWritten v :: begun) :: stack, .value) := rfl
    rw [ofItems_cons_cons, List.append_assoc, parseFrom_ofValue v _ _ h.1, List.cons_append,
      parseFrom_step hcomma,
      parseFrom_ofItems (w :: items) _ stack rest h.2 (List.cons_ne_nil w items),
      List.reverse_cons, List.append_assoc]
    rfl

/-- The fields of an object, behind those that have been read. -/
theorem parseFrom_ofFields : ∀ (fields begun : List (Text × Json)) (stack : List Frame)
    (rest : List Token), FieldsOrdered fields → fields ≠ [] →
    parseFrom stack (.key begun) (ofFields fields ++ endObject :: rest) =
      parseFrom stack
        (.behind (object (arrange (begun.reverse ++ fieldsAsWritten fields)))) rest
  | [], _, _, _, _, h => absurd rfl h
  | [(k, v)], begun, stack, rest, h, _ => by
    have hkey : advance stack (.key begun) (text k) = some (stack, .colon begun k) := rfl
    have hcolon : advance stack (.colon begun k) colon =
        some (.fields begun k :: stack, .value) := rfl
    have hclose : advance (.fields begun k :: stack) (.behind (asWritten v)) endObject =
        some (stack, .behind (object (arrange ((k, asWritten v) :: begun).reverse))) := rfl
    rw [ofFields, List.cons_append, parseFrom_step hkey, List.cons_append, parseFrom_step hcolon,
      parseFrom_ofValue v _ _ h.1, parseFrom_step hclose, List.reverse_cons]
    rfl
  | (k, v) :: f :: fields, begun, stack, rest, h, _ => by
    have hkey : advance stack (.key begun) (text k) = some (stack, .colon begun k) := rfl
    have hcolon : advance stack (.colon begun k) colon =
        some (.fields begun k :: stack, .value) := rfl
    have hcomma : advance (.fields begun k :: stack) (.behind (asWritten v)) comma =
        some (stack, .key ((k, asWritten v) :: begun)) := rfl
    rw [ofFields_cons_cons, List.append_assoc, List.cons_append, List.cons_append,
      parseFrom_step hkey, parseFrom_step hcolon, parseFrom_ofValue v _ _ h.1, List.cons_append,
      parseFrom_step hcomma,
      parseFrom_ofFields (f :: fields) _ stack rest h.2 (List.cons_ne_nil f fields),
      List.reverse_cons, List.append_assoc]
    rfl

end

end Parse

/-- The text of a value reads back as the value as written. -/
theorem parse?_print {v : Json} (h : IsOrdered v) :
    parse? (Text.ofString v.print) = some (asWritten v) := by
  have hparse := parseFrom_ofValue v [] [] h
  rw [List.append_nil] at hparse
  rw [parse?, Token.scan_print]
  exact hparse

/-! ## Values that are read -/

theorem mem_put {key : Text} {value : Json} {done : List (Text × Json)} {f : Text × Json}
    (h : f ∈ put key value done) : f = (key, value) ∨ f ∈ done := by
  induction done with
  | nil => exact .inl (List.mem_singleton.mp h)
  | cons g done ih =>
    obtain ⟨k, v⟩ := g
    unfold put at h
    split at h
    · rcases List.mem_cons.mp h with h | h
      · exact .inl h
      · exact .inr (List.mem_cons_of_mem _ h)
    · split at h
      · rcases List.mem_cons.mp h with h | h
        · exact .inl h
        · exact .inr h
      · rcases List.mem_cons.mp h with h | h
        · exact .inr (h ▸ List.mem_cons_self)
        · exact (ih h).imp_right (List.mem_cons_of_mem _)

/-- A field that is put keeps the others in their places. -/
theorem pairwise_put {key : Text} {value : Json} {done : List (Text × Json)}
    (h : done.Pairwise MayFollow) : (put key value done).Pairwise MayFollow := by
  induction done with
  | nil => exact List.pairwise_singleton _ _
  | cons f done ih =>
    obtain ⟨k, v⟩ := f
    obtain ⟨hfirst, hrest⟩ := List.pairwise_cons.mp h
    unfold put
    split
    · rename_i hsame
      subst hsame
      exact List.pairwise_cons.mpr ⟨hfirst, hrest⟩
    · rename_i hne
      split
      · rename_i hprecedes
        refine List.pairwise_cons.mpr ⟨fun g hg => ?_, h⟩
        rcases List.mem_cons.mp hg with rfl | hg
        · exact ⟨fun heq => hne heq.symm, precedes_asymm hprecedes⟩
        · -- A field behind this one precedes nothing that precedes this one.
          obtain ⟨-, hlater⟩ := hfirst g hg
          dsimp only at hlater
          refine ⟨?_, ?_⟩
          · rintro rfl
            rw [hprecedes] at hlater
            cases hlater
          · by_contra hearlier
            rw [Bool.not_eq_false] at hearlier
            rw [precedes_trans hearlier hprecedes] at hlater
            cases hlater
      · rename_i hnot
        refine List.pairwise_cons.mpr ⟨fun g hg => ?_, ih hrest⟩
        rcases mem_put hg with rfl | hg
        · exact ⟨hne, Bool.eq_false_iff.mpr hnot⟩
        · exact hfirst g hg

theorem itemsOrdered_iff {items : List Json} : ItemsOrdered items ↔ ∀ v ∈ items, IsOrdered v := by
  induction items with
  | nil => exact ⟨fun _ _ h => absurd h List.not_mem_nil, fun _ => trivial⟩
  | cons v items ih => rw [ItemsOrdered, ih, List.forall_mem_cons]

theorem fieldsOrdered_iff {fields : List (Text × Json)} :
    FieldsOrdered fields ↔ ∀ f ∈ fields, IsOrdered f.2 := by
  induction fields with
  | nil => exact ⟨fun _ _ h => absurd h List.not_mem_nil, fun _ => trivial⟩
  | cons f fields ih => rw [FieldsOrdered, ih, List.forall_mem_cons]

/-- Whatever fields are put together, they come into their places. -/
theorem isOrdered_arrange {fields : List (Text × Json)} (h : ∀ f ∈ fields, IsOrdered f.2) :
    IsOrdered (object (arrange fields)) := by
  rw [IsOrdered, fieldsOrdered_iff]
  refine List.foldlRecOn (motive := fun done : List (Text × Json) =>
    done.Pairwise MayFollow ∧ ∀ f ∈ done, IsOrdered f.2) fields _
    ⟨List.Pairwise.nil, fun f hf => absurd hf List.not_mem_nil⟩ ?_
  rintro done ⟨hpairwise, hvalues⟩ f hf
  refine ⟨pairwise_put hpairwise, fun g hg => ?_⟩
  rcases mem_put hg with rfl | hg
  · exact h f hf
  · exact hvalues g hg

/-- What has been read of a list or an object is in order. -/
def Frame.IsOrdered : Frame → Prop
  | items begun => ItemsOrdered begun
  | fields begun _ => FieldsOrdered begun

/-- What has been read in front of the next token is in order. -/
def Expectation.IsOrdered : Expectation → Prop
  | value | firstItem | firstKey => True
  | key begun | colon begun _ => FieldsOrdered begun
  | behind v => v.IsOrdered

/-- A word is in order. -/
def Token.IsOrdered : Token → Prop
  | word v => v.IsOrdered
  | _ => True

section Read

variable {stack stack' : List Frame} {expected expected' : Expectation} {t : Token}

theorem isOrdered_beginValue (ht : t.IsOrdered)
    (h : beginValue stack t = some (stack', expected')) :
    stack' = stack ∧ expected'.IsOrdered := by
  unfold beginValue at h
  split at h <;> cases h
  · exact ⟨rfl, trivial⟩
  · exact ⟨rfl, trivial⟩
  · exact ⟨rfl, trivial⟩
  · exact ⟨rfl, ht⟩

theorem isOrdered_endValue {v : Json} (hv : v.IsOrdered) (hstack : ∀ f ∈ stack, f.IsOrdered)
    (h : endValue v stack t = some (stack', expected')) :
    (∀ f ∈ stack', f.IsOrdered) ∧ expected'.IsOrdered := by
  unfold endValue at h
  split at h <;> cases h <;> obtain ⟨hframe, hstack⟩ := List.forall_mem_cons.mp hstack
  · exact ⟨List.forall_mem_cons.mpr ⟨⟨hv, hframe⟩, hstack⟩, trivial⟩
  · rename_i begun _
    have hitems : ItemsOrdered (v :: begun) := ⟨hv, hframe⟩
    refine ⟨hstack, ?_⟩
    show ItemsOrdered (v :: begun).reverse
    rw [itemsOrdered_iff] at hitems ⊢
    exact fun w hw => hitems w (List.mem_reverse.mp hw)
  · exact ⟨hstack, hv, hframe⟩
  · rename_i begun k _
    have hfields : FieldsOrdered ((k, v) :: begun) := ⟨hv, hframe⟩
    rw [fieldsOrdered_iff] at hfields
    exact ⟨hstack, isOrdered_arrange fun f hf => hfields f (List.mem_reverse.mp hf)⟩

/-- A token keeps what has been read in order. -/
theorem isOrdered_advance (ht : t.IsOrdered) (hstack : ∀ f ∈ stack, f.IsOrdered)
    (hexpected : expected.IsOrdered) (h : advance stack expected t = some (stack', expected')) :
    (∀ f ∈ stack', f.IsOrdered) ∧ expected'.IsOrdered := by
  unfold advance at h
  split at h
  · obtain ⟨rfl, hnext⟩ := isOrdered_beginValue ht h
    exact ⟨hstack, hnext⟩
  · cases h
    exact ⟨hstack, trivial⟩
  · obtain ⟨rfl, hnext⟩ := isOrdered_beginValue ht h
    exact ⟨List.forall_mem_cons.mpr ⟨trivial, hstack⟩, hnext⟩
  · cases h
    exact ⟨hstack, List.Pairwise.nil, trivial⟩
  · cases h
    exact ⟨hstack, trivial⟩
  · cases h
    exact ⟨hstack, hexpected⟩
  · cases h
    exact ⟨List.forall_mem_cons.mpr ⟨hexpected, hstack⟩, trivial⟩
  · exact isOrdered_endValue hexpected hstack h
  · cases h

theorem isOrdered_parseFrom {ts : List Token} {v : Json} (hts : ∀ t ∈ ts, t.IsOrdered)
    (hstack : ∀ f ∈ stack, f.IsOrdered) (hexpected : expected.IsOrdered)
    (h : parseFrom stack expected ts = some v) : v.IsOrdered := by
  induction ts generalizing stack expected with
  | nil =>
    unfold parseFrom at h
    split at h
    · obtain rfl := Option.some.inj h
      exact hexpected
    · cases h
  | cons t ts ih =>
    obtain ⟨ht, hts⟩ := List.forall_mem_cons.mp hts
    unfold parseFrom at h
    split at h
    · rename_i hadvance
      obtain ⟨hstack', hexpected'⟩ := isOrdered_advance ht hstack hexpected hadvance
      exact ih hts hstack' hexpected' h
    · cases h

end Read

namespace Token

theorem isOrdered_ofWord? {cs : List Char} {t : Token} (h : ofWord? cs = some t) :
    t.IsOrdered := by
  unfold ofWord? at h
  split at h
  · cases h
    trivial
  split at h
  · cases h
    trivial
  split at h
  · cases h
    trivial
  · obtain ⟨x, -, rfl⟩ := Option.map_eq_some_iff.mp h
    trivial

theorem isOrdered_mark? {c : Char} {t : Token} (h : mark? c = some t) : t.IsOrdered := by
  unfold mark? at h
  repeat
    split at h
    · cases h
      trivial
  cases h

theorem isOrdered_begin? {c : Char} {ts : List Token} {p : Progress}
    (h : begin? c = some (ts, p)) : ∀ t ∈ ts, t.IsOrdered := by
  unfold begin? at h
  split at h
  · cases h
    exact fun t ht => absurd ht List.not_mem_nil
  split at h
  · cases h
    exact fun t ht => absurd ht List.not_mem_nil
  split at h
  · rename_i t hmark
    cases h
    exact List.forall_mem_singleton.mpr (isOrdered_mark? hmark)
  · cases h
    exact fun t ht => absurd ht List.not_mem_nil

theorem isOrdered_readChar {p q : Progress} {c : Char} {ts : List Token}
    (h : readChar p c = some (ts, q)) : ∀ t ∈ ts, t.IsOrdered := by
  have hnil : ∀ t ∈ ([] : List Token), t.IsOrdered := fun t ht => absurd ht List.not_mem_nil
  cases p with
  | between => exact isOrdered_begin? h
  | word begun =>
    rw [readChar] at h
    split at h
    · obtain ⟨t, ht, hrest⟩ := Option.bind_eq_some_iff.mp h
      obtain ⟨⟨more, p⟩, hbegin, heq⟩ := Option.bind_eq_some_iff.mp hrest
      cases heq
      exact List.forall_mem_cons.mpr ⟨isOrdered_ofWord? ht, isOrdered_begin? hbegin⟩
    · cases h
      exact hnil
  | text begun =>
    rw [readChar] at h
    split at h
    · cases h
      exact List.forall_mem_singleton.mpr trivial
    split at h
    · cases h
      exact hnil
    split at h
    · cases h
    · cases h
      exact hnil
  | escape begun =>
    rw [readChar] at h
    split at h
    · cases h
      exact hnil
    · obtain ⟨u, -, heq⟩ := Option.map_eq_some_iff.mp h
      cases heq
      exact hnil
  | unit begun needed value =>
    obtain ⟨d, -, heq⟩ := Option.bind_eq_some_iff.mp h
    cases heq
    exact hnil

theorem isOrdered_read {p q : Progress} {piece : Text.Piece} {ts : List Token}
    (h : read p piece = some (ts, q)) : ∀ t ∈ ts, t.IsOrdered := by
  unfold read at h
  split at h
  · exact isOrdered_readChar h
  · cases h
    exact fun t ht => absurd ht List.not_mem_nil
  · cases h

theorem isOrdered_scanFrom {p : Progress} {pieces : List Text.Piece} {ts : List Token}
    (h : scanFrom p pieces = some ts) : ∀ t ∈ ts, t.IsOrdered := by
  induction pieces generalizing p ts with
  | nil =>
    cases p <;> unfold scanFrom at h
    · cases h
      exact fun t ht => absurd ht List.not_mem_nil
    · obtain ⟨t, ht, rfl⟩ := Option.map_eq_some_iff.mp h
      exact List.forall_mem_singleton.mpr (isOrdered_ofWord? ht)
    all_goals cases h
  | cons piece pieces ih =>
    rw [scanFrom] at h
    obtain ⟨⟨now, q⟩, hread, hrest⟩ := Option.bind_eq_some_iff.mp h
    obtain ⟨more, hmore, heq⟩ := Option.bind_eq_some_iff.mp hrest
    cases heq
    exact List.forall_mem_append.mpr ⟨isOrdered_read hread, ih hmore⟩

end Token

/-- The fields of a value that was read stand in their places. -/
theorem isOrdered_parse? {t : Text} {v : Json} (h : parse? t = some v) : v.IsOrdered := by
  obtain ⟨ts, hscan, hparse⟩ := Option.bind_eq_some_iff.mp h
  have hnone : ∀ f ∈ ([] : List Frame), f.IsOrdered := fun f hf => absurd hf List.not_mem_nil
  have hvalue : Expectation.value.IsOrdered := trivial
  exact isOrdered_parseFrom (Token.isOrdered_scanFrom hscan) hnone hvalue hparse

end NodeProbe.Json
