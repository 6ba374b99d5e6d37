import Automation.Proofs.Value.Order

/-!
# Fields of encoded records

A record is encoded as pairs that are put in order. Every field is found again under its name, once
(`Record.field?_ofPairs`), so that a field decodes as its pair alone does: a required one, one with a
default, and one that may be missing (`Record.required_of_field`, `Record.withDefault_of_field`,
`Record.withDefault_of_unless`, `Record.optional_of_field`). The other way round, what a field with a
default decodes to is the default or comes from one of the fields (`Record.origin_of_withDefault`).
-/

namespace Automation

namespace Fields

variable {α β : Type}

theorem get?_append (key : String) (xs ys : List (String × α)) :
    get? key (xs ++ ys) = (get? key xs).or (get? key ys) := by
  induction xs with
  | nil => rfl
  | cons field rest ih =>
    obtain ⟨k, v⟩ := field
    by_cases same : k = key
    · simp [get?, same]
    · simp [get?, same, ih]

/-- Of pairs that are stored one after another the last one with a key is found. -/
theorem get?_insertAll (key : String) (fields pairs : List (String × α)) :
    get? key (insertAll fields pairs) = (get? key pairs.reverse).or (get? key fields) := by
  induction pairs generalizing fields with
  | nil => rfl
  | cons pair rest ih =>
    obtain ⟨k, v⟩ := pair
    have stored := ih (insert k v fields)
    rw [insertAll, List.foldl_cons, ← insertAll, stored, List.reverse_cons, get?_append,
      Option.or_assoc]
    by_cases same : key = k
    · subst same
      simp [get?]
    · simp [get?, Ne.symm same, get?_insert_of_ne same]

theorem get?_ofPairs (key : String) (pairs : List (String × α)) :
    get? key (ofPairs pairs) = get? key pairs.reverse := by
  rw [ofPairs, get?_insertAll, get?_nil, Option.or_none]

theorem get?_reverse_cons_of_ne {key k : String} (ne : key ≠ k) (v : α)
    (pairs : List (String × α)) : get? key ((k, v) :: pairs).reverse = get? key pairs.reverse := by
  rw [List.reverse_cons, get?_append]
  simp [get?, Ne.symm ne]

/-- Of fields in order at most one has a key. -/
theorem Ordered.filter_key {fields : List (String × α)} (h : Ordered fields) (key : String) :
    fields.filter (fun field => field.1 == key) =
      ((get? key fields).map fun v => (key, v)).toList := by
  induction fields with
  | nil => rfl
  | cons field rest ih =>
    obtain ⟨k, v⟩ := field
    obtain ⟨least, ordered⟩ := List.pairwise_cons.mp h
    by_cases same : k = key
    · subst same
      have others : rest.filter (fun field => field.1 == k) = [] := by
        refine List.filter_eq_nil_iff.mpr fun field there found => ?_
        have less : k < field.1 := least field there
        rw [eq_of_beq found] at less
        exact String.lt_irrefl k less
      simp [get?, others]
    · simp [get?, same, ih ordered]

theorem Ordered.get?_of_mem {fields : List (String × α)} (h : Ordered fields) {key : String}
    {value : α} (there : (key, value) ∈ fields) : get? key fields = some value := by
  induction fields with
  | nil => cases there
  | cons field rest ih =>
    obtain ⟨least, ordered⟩ := List.pairwise_cons.mp h
    rcases List.mem_cons.mp there with rfl | later
    · simp [get?]
    · have less : field.1 < key := least (key, value) later
      have other : field.1 ≠ key := fun same => String.lt_irrefl key (same ▸ less)
      simp [get?, other, ih ordered later]

/-- **Fields in order are known by what is under each key.** -/
theorem Ordered.ext {xs ys : List (String × α)} (hx : Ordered xs) (hy : Ordered ys)
    (same : ∀ key, get? key xs = get? key ys) : xs = ys := by
  have distinct {fields : List (String × α)} (h : Ordered fields) : fields.Nodup := by
    refine List.Pairwise.imp ?_ h
    rintro a b less rfl
    exact String.lt_irrefl a.1 less
  have perm : xs.Perm ys := (List.perm_ext_iff_of_nodup (distinct hx) (distinct hy)).mpr
    fun (key, value) =>
      ⟨fun there => mem_of_get? ((same key).symm.trans (hx.get?_of_mem there)),
        fun there => mem_of_get? ((same key).trans (hy.get?_of_mem there))⟩
  exact perm.eq_of_pairwise (fun _ _ _ _ less greater => absurd greater (String.lt_asymm less)) hx hy

/-- Of the fields whose keys have a property. -/
theorem get?_filter (p : String → Bool) (key : String) (fields : List (String × α)) :
    get? key (fields.filter fun field => p field.1) = if p key then get? key fields else none := by
  induction fields with
  | nil => simp
  | cons field rest ih =>
    obtain ⟨k, v⟩ := field
    by_cases here : k = key
    · subst here
      cases kept : p k <;> simp [kept, get?, ih]
    · cases kept : p k <;> simp [kept, get?, here, ih]

end Fields

@[simp] theorem reverse_optionalField {α : Type} (name : String) (encode : α → Value)
    (o : Option α) : (optionalField name encode o).reverse = optionalField name encode o := by
  cases o <;> rfl

@[simp] theorem get?_optionalField {α : Type} (key name : String) (encode : α → Value)
    (o : Option α) :
    Fields.get? key (optionalField name encode o) = if name = key then o.map encode else none := by
  cases o with
  | none => simp [optionalField]
  | some a => simp [optionalField, Fields.get?]

/-- A field that is left out on a condition. -/
@[simp] theorem get?_unless (key name : String) (c : Prop) [Decidable c] (v : Value) :
    Fields.get? key (if c then [] else [(name, v)] : Fields).reverse =
      if ¬c ∧ name = key then some v else none := by
  by_cases omitted : c
  · simp [omitted]
  · simp [omitted, Fields.get?]

namespace Record

variable {α : Type} {name : String} {r : Record} {decode : Value → Option α}

theorem field?_of_ordered {fields : Fields} (h : Fields.Ordered fields) (name : String) :
    field? name fields = some (Fields.get? name fields) := by
  rw [field?, h.filter_key]
  cases Fields.get? name fields <;> rfl

/-- **Every field is found again**, once, among the pairs of a record that were put in order. -/
theorem field?_ofPairs (name : String) (pairs : List (String × Value)) :
    field? name (Fields.ofPairs pairs) = some (Fields.get? name pairs.reverse) := by
  rw [field?_of_ordered (Fields.Ordered.ofPairs pairs), Fields.get?_ofPairs]

/-- What stands under a name is one of the fields. -/
theorem mem_of_field? {v : Value} (h : r.field? name = some (some v)) : (name, v) ∈ r := by
  unfold field? at h
  split at h
  next => cases h
  next k w found =>
    cases h
    obtain ⟨there, same⟩ := List.mem_filter.mp (found ▸ List.mem_singleton_self (k, v))
    have same : k = name := eq_of_beq same
    exact same ▸ there
  next => cases h

/-- A field with a default has the default, or was decoded from one of the fields. -/
theorem origin_of_withDefault {a default : α} (h : r.withDefault name decode default = some a) :
    a = default ∨ ∃ v, (name, v) ∈ r ∧ decode v = some a := by
  unfold withDefault at h
  split at h
  next v found => exact .inr ⟨v, mem_of_field? found, h⟩
  next => exact .inl (Option.some.inj h).symm
  next => cases h

theorem required_of_field {v : Value} (h : r.field? name = some (some v)) :
    r.required name decode = decode v := by
  simp only [required, h]

theorem withDefault_of_field {v : Value} {default : α} (h : r.field? name = some (some v)) :
    r.withDefault name decode default = decode v := by
  simp only [withDefault, h]

/-- A field that is left out only where it has the default. -/
theorem withDefault_of_unless {c : Prop} [Decidable c] {v : Value} {a default : α}
    (h : r.field? name = some (if c then none else some v)) (omitted : c → default = a)
    (written : decode v = some a) : r.withDefault name decode default = some a := by
  by_cases left : c
  · rw [if_pos left] at h
    simp only [withDefault, h, omitted left]
  · rw [if_neg left] at h
    rw [withDefault_of_field h, written]

/-- A field that may be missing is written down if it is there, and then not as a null. -/
theorem optional_of_field {o : Option α} {encode : α → Value}
    (h : r.field? name = some (o.map encode))
    (written : ∀ a, o = some a → encode a ≠ .null ∧ decode (encode a) = some a) :
    r.optional name decode = some o := by
  cases o with
  | none => simp only [optional, h, Option.map_none]
  | some a =>
    obtain ⟨present, back⟩ := written a rfl
    rw [Option.map_some] at h
    cases encoded : encode a with
    | null => exact absurd encoded present
    | _ =>
      rw [encoded] at back
      simp [optional, h, encoded, back]

end Record

namespace Value

/-- A key that no field has is none of the normal form. -/
theorem get?_normalizeFields {key : String} {fields : Fields}
    (foreign : ∀ field ∈ fields, field.1 ≠ key) (earlier : Fields) :
    Fields.get? key (normalizeFields earlier fields) = Fields.get? key earlier := by
  induction fields generalizing earlier with
  | nil => rfl
  | cons field rest ih =>
    obtain ⟨other, others⟩ := List.forall_mem_cons.mp foreign
    rw [normalizeFields, ih others, Fields.get?_insert_of_ne (Ne.symm other)]

theorem asNat?_lt {bound n : Nat} {v : Value} (h : v.asNat? bound = some n) : n < bound := by
  unfold asNat? at h
  split at h
  · split at h
    · cases h
      omega
    · cases h
  · cases h

theorem asNat?_ofNat {bound n : Nat} (h : n < bound) : (ofNat n).asNat? bound = some n := by
  have within : (0 : Int) ≤ n ∧ (n : Int) < bound := by omega
  simp [ofNat, asNat?, within]

/-- The items of an encoded list decode one by one, in their order. -/
theorem asList?_map {α : Type} {decode : Value → Option α} {encode : α → Value} {as : List α}
    (h : ∀ a ∈ as, decode (encode a) = some a) :
    asList? decode (.array (as.map encode)) = some as := by
  rw [asList?]
  induction as with
  | nil => rfl
  | cons a rest ih =>
    have further := ih fun b there => h b (List.mem_cons_of_mem _ there)
    rw [List.map_cons, List.mapM_cons, h a List.mem_cons_self, further]
    rfl

/-- Every item of a decoded list was decoded. -/
theorem decoded_of_asList? {α : Type} {decode : Value → Option α} {v : Value} {as : List α}
    (h : asList? decode v = some as) : ∀ a ∈ as, ∃ w, decode w = some a := by
  cases v with
  | array items =>
    rw [asList?] at h
    induction items generalizing as with
    | nil =>
      cases h
      simp
    | cons first rest ih =>
      simp only [List.mapM_cons, bind, Option.bind_eq_some_iff, pure, Option.some.injEq] at h
      obtain ⟨a, decoded, rest', further, rfl⟩ := h
      intro b there
      rcases List.mem_cons.mp there with rfl | later
      · exact ⟨first, decoded⟩
      · exact ih further b later
  | _ => cases h

end Value

end Automation
