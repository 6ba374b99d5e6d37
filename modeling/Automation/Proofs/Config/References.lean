import Automation.Config.Environment
import Automation.Text.Split
import Mathlib.Data.List.Basic

/-!
# Reading references

A text that refers to the environment is read from left to right: a stretch in which no reference
begins, a reference up to its first closing brace, and so on. A `Reading` is a text in these parts,
and every text has one (`exists_reading`). Each closed reference is replaced by the value of its
variable if that is set, and everything else stays, with one exception: a reference that is begun
and never closed is read to the end of the text as if the brace stood there (`expand_reading`).
-/

namespace Automation.Environment

/-- How a reference begins. -/
def opening : List Char := ['$', '\x7b']

/-- A reference as it is written. -/
def written (name : List Char) : List Char := opening ++ (name ++ ['\x7d'])

/-- A text in which no reference begins. -/
abbrev Stretch := { text : List Char // Text.occursIn opening text = false }

/-- The name of a reference, which the first closing brace ends. -/
abbrev Name := { name : List Char // '\x7d' ∉ name }

/-- A text in the parts in which it is read. -/
structure Reading where
  /-- The closed references in their order, each with the text before it. -/
  references : List (Stretch × Name)
  rest : Stretch
  /-- The name of a reference behind the rest that is not closed. -/
  unclosed : Option Name

namespace Reading

/-- The text of a reading, with something in the place of each reference. -/
def write (closed unclosed : List Char → List Char) (r : Reading) : String :=
  String.ofList (r.references.flatMap (fun (before, name) => before.1 ++ closed name.1) ++
    (r.rest.1 ++ (r.unclosed.map fun name => unclosed name.1).getD []))

/-- The text that is read. -/
def text (r : Reading) : String :=
  r.write written fun name => opening ++ name

/-- The text with the values of the variables that are set in place of the closed references. -/
def filled (env : Variables) (r : Reading) : String :=
  r.write (fun name => ((env.lookup (String.ofList name)).map String.toList).getD (written name))
    fun name => opening ++ name

/-- The variables that the text refers to. -/
def names (r : Reading) : List String :=
  (r.references.map fun (_, name) => String.ofList name.1) ++
    r.unclosed.toList.map fun name => String.ofList name.1

/-- The reading with the last reference closed, if it is not. -/
def closed (r : Reading) : Reading :=
  match r.unclosed with
  | none => r
  | some name => ⟨r.references ++ [(r.rest, name)], ⟨[], rfl⟩, none⟩

/-- A reference that is closed now is written as the others are. -/
theorem write_closed (f g : List Char → List Char) (r : Reading) :
    r.closed.write f g = r.write f f := by
  obtain ⟨references, rest, unclosed⟩ := r
  cases unclosed <;> simp [closed, write]

theorem text_closed (r : Reading) :
    r.closed.text = r.text ++ if r.unclosed.isSome then "\x7d" else "" := by
  obtain ⟨references, rest, unclosed⟩ := r
  apply String.toList_inj.mp
  cases unclosed <;> simp [closed, text, write, written]

theorem names_closed (r : Reading) : r.closed.names = r.names := by
  obtain ⟨references, rest, unclosed⟩ := r
  cases unclosed <;> simp [closed, names]

/-- What is not set stays as it is. -/
theorem filled_of_unset {env : Variables} {r : Reading}
    (unset : ∀ x ∈ r.names, env.lookup x = none) : r.filled env = r.text := by
  unfold filled text write
  rw [List.flatMap_congr]
  intro reference there
  have none : env.lookup (String.ofList reference.2.1) = none :=
    unset _ (List.mem_append_left _ (List.mem_map_of_mem there))
  simp [none]

end Reading

/-- **Every text has a reading.** By induction on its length: what is behind a closed reference is
read next. -/
theorem exists_reading (cs : List Char) : ∃ r : Reading, r.text = String.ofList cs := by
  induction size : cs.length using Nat.strongRecOn generalizing cs with
  | ind n ih =>
    cases opens : Text.occursIn opening cs with
    | false => exact ⟨⟨[], ⟨cs, opens⟩, none⟩, by simp [Reading.text, Reading.write]⟩
    | true =>
      obtain ⟨before, after, rfl, plain⟩ := Text.exists_first (by decide) opens
      by_cases closes : '\x7d' ∈ after
      · obtain ⟨name, behind, rfl, first⟩ := List.eq_append_cons_of_mem closes
        obtain ⟨r, same⟩ := ih behind.length (by simp at size; omega) behind rfl
        refine ⟨{ r with references := (⟨before, plain⟩, ⟨name, first⟩) :: r.references }, ?_⟩
        unfold Reading.text Reading.write at same ⊢
        rw [← String.ofList_inj.mp same]
        simp [written]
      · exact ⟨⟨[], ⟨before, plain⟩, some ⟨after, closes⟩⟩, by simp [Reading.text, Reading.write]⟩

section

variable (env : Variables)

theorem replacement_eq (name : List Char) : replacement env name =
    ((env.lookup (String.ofList name)).map String.toList).getD (written name) := by
  unfold replacement
  cases env.lookup (String.ofList name) <;> rfl

/-- A character with which no reference begins stays. -/
theorem expandChars_cons {c : Char} {cs : List Char} (plain : ¬opening <+: c :: cs) :
    expandChars env none (c :: cs) = c :: expandChars env none cs := by
  rw [expandChars.eq_def]
  split
  next same => cases same
  next same => cases same
  next rest _ same => exact absurd ⟨rest, same.symm⟩ plain
  next same =>
    obtain ⟨rfl, rfl⟩ := List.cons.inj same
    rfl
  next same _ => cases same

/-- A stretch stays, unless a reference begins at its end. -/
theorem expandChars_stretch (before : Stretch) {cs : List Char} (stop : cs.head? ≠ some '\x7b') :
    expandChars env none (before.1 ++ cs) = before.1 ++ expandChars env none cs := by
  obtain ⟨before, plain⟩ := before
  induction before with
  | nil => rfl
  | cons c before ih =>
    have first : ¬opening <+: c :: (before ++ cs) := by
      rintro ⟨more, same⟩
      obtain ⟨rfl, follows⟩ := List.cons.inj same
      cases before with
      | nil => exact stop (congrArg List.head? follows).symm
      | cons d before =>
        obtain ⟨rfl, -⟩ := List.cons.inj follows
        cases plain
    have later : Text.occursIn opening before = false := (Bool.or_eq_false_iff.mp plain).2
    rw [List.cons_append, expandChars_cons env first, ih later, List.cons_append]

/-- The name of a reference is read up to what ends it. -/
theorem expandChars_name (name : Name) (cs : List Char) (read : List Char) :
    expandChars env (some read) (name.1 ++ cs) =
      expandChars env (some (name.1.reverse ++ read)) cs := by
  obtain ⟨name, inside⟩ := name
  induction name generalizing read with
  | nil => rfl
  | cons c name ih =>
    simp only [List.mem_cons, not_or] at inside
    rw [List.cons_append, expandChars, if_neg (Ne.symm inside.1), ih _ inside.2]
    simp

/-- A closed reference is replaced, and what is behind it is read next. -/
theorem expandChars_closed (name : Name) (cs : List Char) :
    expandChars env none (written name.1 ++ cs) =
      replacement env name.1 ++ expandChars env none cs := by
  have named := expandChars_name env name ('\x7d' :: cs) []
  have begun : expandChars env none (written name.1 ++ cs) =
      expandChars env (some []) (name.1 ++ '\x7d' :: cs) := by
    simp [written, opening, expandChars]
  rw [begun, named, expandChars, if_pos rfl]
  simp

/-- A reference that is not closed is replaced at the end of the text. -/
theorem expandChars_unclosed (name : Name) :
    expandChars env none (opening ++ name.1) = replacement env name.1 := by
  have named := expandChars_name env name [] []
  rw [List.append_nil] at named
  have begun : expandChars env none (opening ++ name.1) = expandChars env (some []) name.1 := rfl
  rw [begun, named, expandChars]
  simp

/-- **References are replaced where they are read**, closed or not. -/
theorem expand_text (r : Reading) :
    expand env r.text = r.write (replacement env) (replacement env) := by
  obtain ⟨references, rest, unclosed⟩ := r
  have last : expandChars env none
      (rest.1 ++ (unclosed.map fun name => opening ++ name.1).getD []) =
        rest.1 ++ (unclosed.map fun name => replacement env name.1).getD [] := by
    cases unclosed with
    | none => exact expandChars_stretch env rest nofun
    | some name =>
      have before : expandChars env none (rest.1 ++ (opening ++ name.1)) = _ :=
        expandChars_stretch env rest (by simp [opening])
      rwa [expandChars_unclosed] at before
  unfold expand Reading.text Reading.write
  rw [String.toList_ofList]
  congr 1
  induction references with
  | nil => exact last
  | cons reference references ih =>
    obtain ⟨before, name⟩ := reference
    rw [List.flatMap_cons, List.flatMap_cons, List.append_assoc, List.append_assoc,
      expandChars_stretch env before (by simp [written, opening]), expandChars_closed, ih,
      List.append_assoc, List.append_assoc]

end

/-- **What expansion makes of a text.** Every text has a reading. Where its references are all
closed, they are replaced by what is set and nothing else is changed. Where the last one is not
closed, its brace is put at the end of the text first. If no variable that the text refers to is
set, that brace is all that is changed. -/
theorem expand_reading (env : Variables) :
    (∀ text, ∃ r : Reading, r.text = text) ∧
      ∀ r : Reading,
        (r.unclosed = none → expand env r.text = r.filled env) ∧
        expand env r.text = r.closed.filled env ∧
        r.closed.text = r.text ++ (if r.unclosed.isSome then "\x7d" else "") ∧
        ((∀ x ∈ r.names, env.lookup x = none) → expand env r.text = r.closed.text) := by
  have read (r : Reading) : expand env r.text = r.closed.filled env := by
    rw [expand_text, Reading.filled, Reading.write_closed, funext (replacement_eq env)]
  refine ⟨fun text => ?_, fun r => ⟨fun all => ?_, read r, r.text_closed, fun unset => ?_⟩⟩
  · obtain ⟨r, same⟩ := exists_reading text.toList
    exact ⟨r, by rw [same, String.ofList_toList]⟩
  · have whole : r.closed = r := by simp [Reading.closed, all]
    rw [read, whole]
  · rw [read, Reading.filled_of_unset (r.names_closed.symm ▸ unset)]

/-- A reference inside a name is no reference: though `Y` is set, the text stays. -/
theorem expand_reading_nested :
    let r : Reading := ⟨[(⟨['a'], by decide⟩, ⟨['$', '\x7b', 'Y'], by decide⟩)],
      ⟨['b'], by decide⟩, none⟩
    r.text = "a$\x7b$\x7bY\x7db" ∧ (∀ x ∈ r.names, [("Y", "1")].lookup x = none) ∧
      expand [("Y", "1")] r.text = r.text := by
  intro r
  have unset : ∀ x ∈ r.names, [("Y", "1")].lookup x = none := by decide
  exact ⟨by decide, unset, ((expand_reading [("Y", "1")]).2 r).2.2.2 unset⟩

/-- **A reference that is not closed is not kept as it stands**: at the end of a text it is replaced
by its value, and gets a brace if it has none. -/
theorem not_expand_filled :
    (¬∀ (env : Variables) (r : Reading), expand env r.text = r.filled env) ∧
      ¬∀ (env : Variables) (r : Reading), (∀ x ∈ r.names, env.lookup x = none) →
        expand env r.text = r.text := by
  let r : Reading := ⟨[], ⟨['a'], by decide⟩, some ⟨['X'], by decide⟩⟩
  constructor
  · intro all
    exact absurd (all [("X", "1")] r) (by decide)
  · intro all
    exact absurd (all [] r (by simp)) (by decide)

end Automation.Environment
