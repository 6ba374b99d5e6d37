import Automation.Proofs.Value.Order
import Automation.Toml.Document

/-!
# The integers of a document

An integer of TOML is a signed 64-bit word. Whatever a document holds, in tables and arrays of any
depth, was read as a scalar at some point, and to build a document only moves its parts around. So
all integers of a document are such words (`Toml.words_of_read?`), and nothing that a document
writes as a number can be greater than `2^63 - 1`, whatever the type of the setting would admit. That
is all that is asked of a library of TOML (`Toml.LawfulLibrary`).
-/

namespace Automation

/-- A double, or an integer that is a signed 64-bit word. -/
def Number.IsWord : Number → Prop
  | .int n => -Int.pow 2 63 ≤ n ∧ n < Int.pow 2 63
  | .float _ => True

/-- A value whose integers are signed 64-bit words. -/
inductive Value.Words : Value → Prop where
  | null : Words .null
  | bool (b : Bool) : Words (.bool b)
  | number {n : Number} (h : n.IsWord) : Words (.number n)
  | string (s : String) : Words (.string s)
  | array {items : List Value} (h : ∀ v ∈ items, Words v) : Words (.array items)
  | object {fields : List (String × Value)} (h : ∀ field ∈ fields, Words field.2) :
    Words (.object fields)

namespace Toml

/-- A part of a document whose integers are signed 64-bit words. -/
inductive Tree.Words : Tree → Prop where
  | value {v : Value} (h : v.Words) : Words (.value v)
  | table {d : Definition} {fields : Table} (h : ∀ field ∈ fields, Words field.2) :
    Words (.table d fields)
  | tables {items : List Table} (h : ∀ fields ∈ items, ∀ field ∈ fields, Words field.2) :
    Words (.tables items)

/-- A table whose integers are signed 64-bit words. -/
def Table.Words (table : Table) : Prop :=
  ∀ field ∈ table, field.2.Words

variable {table table' : Table}

theorem Table.Words.nil : Table.Words [] := fun _ there => nomatch there

theorem Table.Words.insert (h : table.Words) (key : String) {t : Tree} (ht : t.Words) :
    Table.Words (Fields.insert key t table) := by
  intro field there
  rcases Fields.mem_insert there with rfl | old
  · exact ht
  · exact h field old

theorem Table.Words.get (h : table.Words) {key : String} {t : Tree}
    (there : Fields.get? key table = some t) : t.Words :=
  h _ (Fields.mem_of_get? there)

mutual

/-- The value of a part has the integers of the part. -/
theorem Tree.Words.toValue : ∀ {t : Tree}, t.Words → t.toValue.Words
  | .value v, h => by
    cases h with
    | value h => exact h
  | .table _ fields, h => by
    cases h with
    | table h => exact .object (words_valuesOf fields h)
  | .tables items, h => by
    cases h with
    | tables h => exact .array (words_recordsOf items h)

theorem words_valuesOf : ∀ fields : List (String × Tree), (∀ field ∈ fields, field.2.Words) →
    ∀ field ∈ valuesOf fields, field.2.Words
  | [], _, _, there => nomatch there
  | (k, t) :: rest, h, field, there => by
    obtain ⟨first, others⟩ := List.forall_mem_cons.mp h
    rcases List.mem_cons.mp there with rfl | later
    · exact first.toValue
    · exact words_valuesOf rest others field later

theorem words_recordsOf : ∀ items : List (List (String × Tree)),
    (∀ fields ∈ items, ∀ field ∈ fields, field.2.Words) → ∀ v ∈ recordsOf items, v.Words
  | [], _, _, there => nomatch there
  | fields :: rest, h, v, there => by
    obtain ⟨first, others⟩ := List.forall_mem_cons.mp h
    rcases List.mem_cons.mp there with rfl | later
    · exact .object (words_valuesOf fields first)
    · exact words_recordsOf rest others v later

end

/-! ## Definitions -/

/-- To change a table far inside keeps what the change keeps. -/
theorem Table.Words.updateAt {byDots : Bool} {change : Definition → Table → Option Table}
    (kept : ∀ d fields fields', Table.Words fields → change d fields = some fields' →
      Table.Words fields')
    {path : List String} {d : Definition} (h : table.Words)
    (updated : updateAt byDots change d table path = some table') : table'.Words := by
  induction path generalizing d table table' with
  | nil => exact kept d table table' h updated
  | cons key rest ih =>
    rw [Toml.updateAt] at updated
    split at updated
    next =>
      obtain ⟨inner, changed, rfl⟩ := Option.map_eq_some_iff.mp updated
      exact h.insert key (.table (ih .nil changed))
    next => cases updated
    next d' inner found =>
      split at updated
      · cases updated
      · obtain ⟨inner', changed, rfl⟩ := Option.map_eq_some_iff.mp updated
        cases h.get found with
        | table words => exact h.insert key (.table (ih words changed))
    next items found =>
      cases h.get found with
      | tables words =>
        split at updated
        · cases updated
        · -- Only the last table of the array changes, which is the first of the array reversed.
          next last others reversed =>
          obtain ⟨last', changed, rfl⟩ := Option.map_eq_some_iff.mp updated
          have split : items = others.reverse ++ [last] := by
            rw [← List.reverse_cons, ← reversed, List.reverse_reverse]
          subst split
          obtain ⟨before, atEnd⟩ := List.forall_mem_append.mp words
          have inner : Table.Words last := atEnd last List.mem_cons_self
          refine h.insert key (.tables (List.forall_mem_append.mpr ⟨before, ?_⟩))
          exact List.forall_mem_singleton.mpr (ih inner changed)

theorem Table.Words.define {keys : List String} {v : Value} (h : table.Words) (hv : v.Words)
    (defined : define keys v table = some table') : table'.Words := by
  rw [Toml.define] at defined
  split at defined
  · cases defined
  · refine h.updateAt (fun d fields fields' words changed => ?_) defined
    split at changed
    · cases changed
    · cases changed
      exact words.insert _ (.value hv)

theorem Table.Words.openTable {header : List String} (h : table.Words)
    (opened : openTable header table = some table') : table'.Words := by
  rw [Toml.openTable] at opened
  split at opened
  · cases opened
  · refine h.updateAt (fun d fields fields' words changed => ?_) opened
    split at changed
    next =>
      cases changed
      exact words.insert _ (.table Table.Words.nil)
    next inner found =>
      cases changed
      cases words.get found with
      | table inner => exact words.insert _ (.table inner)
    next => cases changed

theorem Table.Words.openItem {header : List String} (h : table.Words)
    (opened : openItem header table = some table') : table'.Words := by
  have fresh : ∀ fields ∈ [([] : Table)], Table.Words fields :=
    List.forall_mem_singleton.mpr .nil
  rw [Toml.openItem] at opened
  split at opened
  · cases opened
  · refine h.updateAt (fun d fields fields' words changed => ?_) opened
    split at changed
    next =>
      cases changed
      exact words.insert _ (.tables fresh)
    next items found =>
      cases changed
      cases words.get found with
      | tables items =>
        exact words.insert _ (.tables (List.forall_mem_append.mpr ⟨items, fresh⟩))
    next => cases changed

theorem Table.Words.defineUnder {header keys : List String} {v : Value} (h : table.Words)
    (hv : v.Words) (defined : defineUnder header keys v table = some table') : table'.Words :=
  h.updateAt (fun _ _ _ words changed => words.define hv changed) defined

/-! ## Readers -/

/-- What a reader reads has no integers but signed 64-bit words. -/
def ReadsWords (read : List Char → Option (Value × List Char)) : Prop :=
  ∀ ⦃cs : List Char⦄ ⦃v : Value⦄ ⦃rest : List Char⦄, read cs = some (v, rest) → v.Words

theorem words_of_integer? {n : Int} {v : Value} (h : integer? n = some v) : v.Words := by
  rw [integer?] at h
  split at h
  next inside =>
    cases h
    exact .number inside
  next => cases h

theorem readsWords_based : ReadsWords readBased? := by
  intro cs v rest h
  rw [readBased?.eq_def] at h
  split at h
  · simp only [Option.bind_eq_bind, Option.bind_eq_some_iff] at h
    obtain ⟨base, -, ⟨digits, behind⟩, -, w, fits, same⟩ := h
    cases same
    exact words_of_integer? fits
  · cases h

theorem readsWords_decimal : ReadsWords readDecimal? := by
  intro cs v rest h
  simp only [readDecimal?, Option.bind_eq_bind] at h
  obtain ⟨⟨whole, behind⟩, -, h⟩ := Option.bind_eq_some_iff.mp h
  split at h
  · cases h
  · -- With a point or without one, what follows is read in the same way.
    split at h <;>
    · obtain ⟨fraction, -, h⟩ := Option.bind_eq_some_iff.mp h
      obtain ⟨exponent, -, h⟩ := Option.bind_eq_some_iff.mp h
      split at h
      · obtain ⟨w, fits, same⟩ := Option.bind_eq_some_iff.mp h
        cases same
        exact words_of_integer? fits
      · split at h
        · cases h
          exact .number trivial
        · cases h

theorem readsWords_special : ReadsWords readSpecial? := by
  intro cs v rest h
  simp only [readSpecial?] at h
  split at h
  · cases h
    exact .number trivial
  · cases h
    exact .number trivial
  · cases h

theorem readsWords_bool : ReadsWords readBool? := by
  intro cs v rest h
  rw [readBool?.eq_def] at h
  split at h
  · cases h
    exact .bool true
  · cases h
    exact .bool false
  · cases h

theorem readsWords_time : ReadsWords readTime? := by
  intro cs v rest h
  obtain ⟨_, -, same⟩ := Option.map_eq_some_iff.mp h
  cases same
  exact .object (List.forall_mem_singleton.mpr (.string _))

theorem readsWords_scalar : ReadsWords readScalar? := by
  intro cs v rest h
  rw [readScalar?] at h
  split at h
  · exact readsWords_time h
  · split at h
    next found =>
      cases h
      exact readsWords_bool found
    next =>
      split at h
      next found =>
        cases h
        exact readsWords_special found
      next =>
        split at h
        next found =>
          cases h
          exact readsWords_based found
        next => exact readsWords_decimal h

section
variable {value : List Char → Option (Value × List Char)} {fuel : Nat} {cs rest : List Char}

theorem ReadsWords.items (read : ReadsWords value) {items : List Value}
    (h : readItems value fuel cs = some (items, rest)) : ∀ v ∈ items, v.Words := by
  induction fuel generalizing cs items with
  | zero => cases h
  | succ fuel ih =>
    rw [readItems] at h
    split at h
    next =>
      cases h
      exact fun _ there => nomatch there
    next =>
      split at h
      next => cases h
      next first =>
        split at h
        next =>
          obtain ⟨⟨others, _⟩, later, same⟩ := Option.map_eq_some_iff.mp h
          cases same
          exact List.forall_mem_cons.mpr ⟨read first, ih later⟩
        next =>
          cases h
          exact List.forall_mem_singleton.mpr (read first)
        next => cases h
    next => cases h

theorem ReadsWords.fields (read : ReadsWords value) (words : table.Words)
    (h : readFields value fuel table cs = some (table', rest)) : table'.Words := by
  induction fuel generalizing cs table with
  | zero => cases h
  | succ fuel ih =>
    rw [readFields] at h
    split at h
    next =>
      split at h
      next => cases h
      next found =>
        split at h
        next => cases h
        next defined =>
          have more := words.define (read found) defined
          split at h
          next => exact ih more h
          next =>
            cases h
            exact more
          next => cases h
    next => cases h

end

theorem readsWords_string :
    ReadsWords fun cs => (readString? cs).map fun (s, rest) => (.string s, rest) := by
  intro cs v rest h
  obtain ⟨_, -, same⟩ := Option.map_eq_some_iff.mp h
  cases same
  exact .string _

/-- A container is read with the reader of what is one level less deep. -/
theorem readsWords_value (depth : Nat) : ReadsWords (readValue depth) := by
  induction depth using Nat.strongRecOn with
  | _ depth ih =>
    intro cs v rest h
    unfold readValue at h
    split at h
    next =>
      cases depth with
      | zero => cases h
      | succ depth =>
        obtain ⟨⟨items, _⟩, found, same⟩ := Option.map_eq_some_iff.mp h
        cases same
        exact .array ((ih depth depth.lt_succ_self).items found)
    next =>
      cases depth with
      | zero => cases h
      | succ depth =>
        simp only at h
        split at h
        next =>
          cases h
          exact .object fun _ there => nomatch there
        next =>
          obtain ⟨⟨fields, _⟩, found, same⟩ := Option.map_eq_some_iff.mp h
          cases same
          exact .object (words_valuesOf fields ((ih depth depth.lt_succ_self).fields .nil found))
    next => exact readsWords_string h
    next => exact readsWords_string h
    next => exact readsWords_scalar h

/-- A line adds only words to a document. -/
theorem words_of_readLines {fuel : Nat} {header : List String} {root root' : Table}
    {cs : List Char} (h : root.Words) (read : readLines fuel header root cs = some root') :
    root'.Words := by
  induction fuel generalizing header root cs with
  | zero => cases read
  | succ fuel ih =>
    rw [readLines] at read
    split at read
    next =>
      cases read
      exact h
    next =>
      split at read
      next =>
        split at read
        next opened _ => exact ih (h.openItem opened) read
        next => cases read
      next => cases read
    next =>
      split at read
      next =>
        split at read
        next opened _ => exact ih (h.openTable opened) read
        next => cases read
      next => cases read
    next =>
      split at read
      next => exact ih h read
      next =>
        split at read
        next =>
          split at read
          next => cases read
          next found =>
            split at read
            next defined _ => exact ih (h.defineUnder (readsWords_value _ found) defined) read
            next => cases read
        next => cases read

/-- **The integers of a document are signed 64-bit words.** -/
theorem words_of_read? {text : String} {v : Value} (h : read? text = some v) : v.Words := by
  obtain ⟨root, lines, rfl⟩ := Option.map_eq_some_iff.mp h
  exact .object (words_valuesOf root (words_of_readLines .nil lines))

/-- What a library of TOML keeps to: the integers of a document are signed 64-bit words. -/
class LawfulLibrary [Library] : Prop where
  words : ∀ {text v}, Library.read? text = some v → v.Words

instance : LawfulLibrary := ⟨words_of_read?⟩

end Toml

end Automation
