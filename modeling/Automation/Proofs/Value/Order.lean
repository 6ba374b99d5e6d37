import Automation.Value.Decode

/-!
# Fields in order

The fields of an object stand in increasing order of their keys, in every object of a value
(`Value.Ordered`). To store a field keeps the order, and to store what is there already changes
nothing. Normal values are the ordered ones: `Value.normalize` leaves one behind, and leaves it as it
is (`Value.ordered_normalize`, `Value.Ordered.normalize_eq`).
-/

namespace Automation

namespace Fields

variable {α : Type} {key : String} {value : α} {fields : List (String × α)}

/-- Fields in increasing order of their keys. -/
def Ordered (fields : List (String × α)) : Prop :=
  fields.Pairwise fun a b => a.1 < b.1

theorem lt_of_not_lt_of_ne {a b : String} (h : ¬a < b) (ne : b ≠ a) : b < a := by
  by_cases less : b < a
  · exact less
  · exact absurd (String.le_antisymm (String.not_lt.mp h) (String.not_lt.mp less)) ne

/-! ## Storing a field -/

/-- What is there after a field was stored is that field, or was there before. -/
theorem mem_insert {field : String × α} (h : field ∈ insert key value fields) :
    field = (key, value) ∨ field ∈ fields := by
  induction fields with
  | nil => exact .inl (List.mem_singleton.mp h)
  | cons first rest ih =>
    obtain ⟨k, v⟩ := first
    rw [insert] at h
    split at h
    · rcases List.mem_cons.mp h with own | old
      · exact .inl own
      · exact .inr (List.mem_cons_of_mem _ old)
    · split at h
      · exact List.mem_cons.mp h
      · rcases List.mem_cons.mp h with here | later
        · exact .inr (here ▸ List.mem_cons_self)
        · exact (ih later).imp_right (List.mem_cons_of_mem _)

/-- To store a field keeps the order. -/
theorem Ordered.insert (h : Ordered fields) (key : String) (value : α) :
    Ordered (Fields.insert key value fields) := by
  induction fields with
  | nil => exact List.pairwise_singleton ..
  | cons first rest ih =>
    obtain ⟨k, v⟩ := first
    obtain ⟨least, ordered⟩ := List.pairwise_cons.mp h
    rw [Fields.insert]
    split
    next same =>
      subst same
      exact List.pairwise_cons.mpr ⟨least, ordered⟩
    next other =>
      split
      next before =>
        refine List.pairwise_cons.mpr ⟨fun field there => ?_, h⟩
        rcases List.mem_cons.mp there with rfl | later
        · exact before
        · exact String.lt_trans before (least field later)
      next behind =>
        refine List.pairwise_cons.mpr ⟨fun field there => ?_, ih ordered⟩
        rcases mem_insert there with rfl | later
        · exact lt_of_not_lt_of_ne behind other
        · exact least field later

/-- A key behind all others is stored at the end. -/
theorem insert_of_last (last : ∀ field ∈ fields, field.1 < key) :
    insert key value fields = fields ++ [(key, value)] := by
  induction fields with
  | nil => rfl
  | cons first rest ih =>
    obtain ⟨k, v⟩ := first
    have less : k < key := last (k, v) List.mem_cons_self
    have other : k ≠ key := by
      rintro rfl
      exact String.lt_irrefl k less
    rw [insert, if_neg other, if_neg (String.lt_asymm less),
      ih fun field there => last field (List.mem_cons_of_mem _ there), List.cons_append]

theorem mem_of_get? (there : get? key fields = some value) : (key, value) ∈ fields := by
  induction fields with
  | nil => cases there
  | cons first rest ih =>
    obtain ⟨k, v⟩ := first
    rw [get?] at there
    split at there
    next same =>
      cases there
      exact same ▸ List.mem_cons_self
    next => exact List.mem_cons_of_mem _ (ih there)

/-- **To store what is there already changes nothing.** -/
theorem Ordered.insert_get? (h : Ordered fields) (there : get? key fields = some value) :
    Fields.insert key value fields = fields := by
  induction fields with
  | nil => cases there
  | cons first rest ih =>
    obtain ⟨k, v⟩ := first
    obtain ⟨least, ordered⟩ := List.pairwise_cons.mp h
    rw [get?] at there
    rw [Fields.insert]
    split at there
    next same =>
      cases there
      rw [if_pos same, same]
    next other =>
      -- The key is found further on, where all keys are greater than the first one.
      have less : k < key := least _ (mem_of_get? there)
      rw [if_neg other, if_neg (String.lt_asymm less), ih ordered there]

theorem Ordered.ofPairs (pairs : List (String × α)) : Ordered (Fields.ofPairs pairs) := by
  suffices ∀ fields : List (String × α), Ordered fields → Ordered (insertAll fields pairs) from
    this [] List.Pairwise.nil
  induction pairs with
  | nil => exact fun _ h => h
  | cons pair rest ih => exact fun fields h => ih _ (h.insert pair.1 pair.2)

/-- Pairs that are in order are the fields that they describe. -/
theorem Ordered.ofPairs_eq (h : Ordered fields) : Fields.ofPairs fields = fields := by
  suffices ∀ earlier : List (String × α), Ordered (earlier ++ fields) →
      insertAll earlier fields = earlier ++ fields from this [] h
  clear h
  induction fields with
  | nil => exact fun earlier _ => (List.append_nil earlier).symm
  | cons field rest ih =>
    intro earlier ordered
    obtain ⟨_, _, before⟩ := List.pairwise_append.mp ordered
    have stored : Fields.insert field.1 field.2 earlier = earlier ++ [field] :=
      insert_of_last fun other there => before other there field List.mem_cons_self
    show insertAll (Fields.insert field.1 field.2 earlier) rest = _
    rw [stored, ih _ (by rwa [List.append_assoc]), List.append_assoc]
    rfl

end Fields

/-! ## Ordered values -/

namespace Value

/-- A value whose objects have their fields in order. -/
inductive Ordered : Value → Prop where
  | null : Ordered .null
  | bool (b : Bool) : Ordered (.bool b)
  | number (n : Number) : Ordered (.number n)
  | string (s : String) : Ordered (.string s)
  | array {items : List Value} (h : ∀ v ∈ items, Ordered v) : Ordered (.array items)
  | object {fields : Fields} (ordered : Fields.Ordered fields)
    (h : ∀ field ∈ fields, Ordered field.2) : Ordered (.object fields)

theorem Ordered.item {items : List Value} (h : (Value.array items).Ordered) {i : Nat} {v : Value}
    (there : items[i]? = some v) : v.Ordered := by
  cases h with
  | array h => exact h v (List.mem_of_getElem? there)

theorem Ordered.field {fields : Fields} (h : (Value.object fields).Ordered) {key : String}
    {v : Value} (there : Fields.get? key fields = some v) : v.Ordered := by
  cases h with
  | object _ h => exact h _ (Fields.mem_of_get? there)

theorem ordered_ofNat (n : Nat) : (ofNat n).Ordered := .number _

theorem ordered_ofFloat (x : Float) : (ofFloat x).Ordered := by
  unfold ofFloat
  split
  · exact .number _
  · split
    · exact .number _
    · exact .null

/-- What is at a position of an array, or null. -/
theorem Ordered.itemD {items : List Value} (h : (Value.array items).Ordered) (i : Nat) :
    (items[i]?.getD .null).Ordered := by
  cases there : items[i]? with
  | none => exact .null
  | some v => exact h.item there

/-- What is under a key of an object, or null. -/
theorem Ordered.fieldD {fields : Fields} (h : (Value.object fields).Ordered) (key : String) :
    ((Fields.get? key fields).getD .null).Ordered := by
  cases there : Fields.get? key fields with
  | none => exact .null
  | some v => exact h.field there

theorem Ordered.append {items others : List Value} (h : ∀ v ∈ items, v.Ordered)
    (h' : ∀ v ∈ others, v.Ordered) : (Value.array (items ++ others)).Ordered :=
  .array fun v there => (List.mem_append.mp there).elim (h v) (h' v)

theorem Ordered.set {items : List Value} (h : ∀ v ∈ items, v.Ordered) (i : Nat) {v : Value}
    (hv : v.Ordered) : (Value.array (items.set i v)).Ordered := by
  refine .array fun w there => ?_
  rcases List.mem_or_eq_of_mem_set there with old | rfl
  · exact h w old
  · exact hv

/-- An object with one more field that is ordered. -/
theorem Ordered.insert {fields : Fields} (h : (Value.object fields).Ordered) (key : String)
    {v : Value} (hv : v.Ordered) : (Value.object (Fields.insert key v fields)).Ordered := by
  cases h with
  | object ordered h =>
    refine .object (ordered.insert key v) fun field there => ?_
    rcases Fields.mem_insert there with rfl | old
    · exact hv
    · exact h field old

/-- An object with some more fields that are ordered. -/
theorem Ordered.insertAll {fields : Fields} (h : (Value.object fields).Ordered)
    {pairs : List (String × Value)} (hp : ∀ pair ∈ pairs, pair.2.Ordered) :
    (Value.object (Fields.insertAll fields pairs)).Ordered := by
  induction pairs generalizing fields with
  | nil => exact h
  | cons pair rest ih =>
    obtain ⟨first, others⟩ := List.forall_mem_cons.mp hp
    exact ih (h.insert pair.1 first) others

/-- An object of ordered values is ordered, whichever order they come in. -/
theorem ordered_ofPairs {pairs : List (String × Value)} (h : ∀ pair ∈ pairs, pair.2.Ordered) :
    (Value.object (Fields.ofPairs pairs)).Ordered :=
  Ordered.insertAll (.object List.Pairwise.nil (by simp)) h

mutual

/-- Normal values are ordered. -/
theorem ordered_normalize : ∀ v : Value, v.normalize.Ordered
  | .null => .null
  | .bool b => .bool b
  | .number n => .number n
  | .string s => .string s
  | .array items => .array (ordered_normalizeItems items)
  | .object fields => ordered_normalizeFields fields (.object List.Pairwise.nil (by simp))

theorem ordered_normalizeItems : ∀ (items : List Value), ∀ v ∈ normalizeItems items, v.Ordered
  | [], v, there => by cases there
  | first :: rest, v, there => by
    rw [normalizeItems] at there
    rcases List.mem_cons.mp there with rfl | later
    · exact ordered_normalize first
    · exact ordered_normalizeItems rest v later

theorem ordered_normalizeFields : ∀ (fields : Fields) {earlier : Fields},
    (Value.object earlier).Ordered → (Value.object (normalizeFields earlier fields)).Ordered
  | [], _, h => h
  | (k, v) :: rest, _, h => ordered_normalizeFields rest (h.insert k (ordered_normalize v))

end

mutual

/-- An ordered value is normal. -/
theorem Ordered.normalize_eq : ∀ {v : Value}, v.Ordered → v.normalize = v
  | .null, _ => rfl
  | .bool _, _ => rfl
  | .number _, _ => rfl
  | .string _, _ => rfl
  | .array items, h => by
    cases h with
    | array h => rw [normalize, normalizeItems_eq h]
  | .object fields, h => by
    cases h with
    | object ordered h =>
      have stored : normalizeFields [] fields = [] ++ fields := normalizeFields_eq ordered h
      rw [normalize, stored, List.nil_append]

theorem normalizeItems_eq : ∀ {items : List Value}, (∀ v ∈ items, Ordered v) →
    normalizeItems items = items
  | [], _ => rfl
  | v :: rest, h => by
    rw [normalizeItems, (h v List.mem_cons_self).normalize_eq,
      normalizeItems_eq fun w there => h w (List.mem_cons_of_mem _ there)]

/-- Fields in order, behind earlier ones, are stored at the end. -/
theorem normalizeFields_eq : ∀ {fields earlier : Fields}, Fields.Ordered (earlier ++ fields) →
    (∀ field ∈ fields, Ordered field.2) → normalizeFields earlier fields = earlier ++ fields
  | [], earlier, _, _ => (List.append_nil earlier).symm
  | (k, v) :: rest, earlier, ordered, h => by
    obtain ⟨_, _, before⟩ := List.pairwise_append.mp ordered
    have stored : Fields.insert k v earlier = earlier ++ [(k, v)] :=
      Fields.insert_of_last fun other there => before other there _ List.mem_cons_self
    rw [normalizeFields, (h (k, v) List.mem_cons_self).normalize_eq, stored,
      normalizeFields_eq (by rwa [List.append_assoc])
        fun field there => h field (List.mem_cons_of_mem _ there), List.append_assoc]
    rfl

end

/-- A decoded object is ordered. -/
theorem ordered_of_asObject? {v : Value} {fields : Fields} (h : v.asObject? = some fields) :
    (Value.object fields).Ordered := by
  have ordered := ordered_normalize v
  unfold asObject? at h
  split at h
  next normal =>
    cases h
    exact normal ▸ ordered
  next => cases h

/-- An ordered object decodes as it is. -/
theorem Ordered.asObject?_eq {fields : Fields} (h : (Value.object fields).Ordered) :
    (Value.object fields).asObject? = some fields := by
  rw [asObject?, h.normalize_eq]

end Value

end Automation
