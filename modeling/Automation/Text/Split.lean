/-!
# Searching, splitting and joining text

Occurrences are found from the left and do not overlap. The empty separator stands before, between
and after all characters. `joinChars` puts the pieces together again.
-/

namespace Automation.Text

/-- Whether a text occurs within another. -/
def occursIn (needle : List Char) : List Char → Bool
  | [] => needle.isEmpty
  | c :: cs => needle.isPrefixOf (c :: cs) || occursIn needle cs

/-- The pieces between the occurrences of a separator that is not empty. `skip` counts the
characters left of an occurrence that has been found, `piece` holds the current piece, last
character first. -/
def splitOnText (sep : List Char) : (skip : Nat) → (piece : List Char) → List Char →
    List (List Char)
  | _, piece, [] => [piece.reverse]
  | skip + 1, piece, _ :: cs => splitOnText sep skip piece cs
  | 0, piece, c :: cs =>
    if sep.isPrefixOf (c :: cs) then piece.reverse :: splitOnText sep (sep.length - 1) [] cs
    else splitOnText sep 0 (c :: piece) cs

/-- The pieces between the occurrences of a separator. -/
def splitChars (sep text : List Char) : List (List Char) :=
  if sep.isEmpty then [] :: text.map (fun c => [c]) ++ [[]]
  else splitOnText sep 0 [] text

/-- The pieces with the separator between each two. -/
def joinChars (sep : List Char) : List (List Char) → List Char
  | [] => []
  | [piece] => piece
  | piece :: rest => piece ++ sep ++ joinChars sep rest

/-- The pieces of a text between the occurrences of a separator. -/
def split (sep text : String) : List String :=
  (splitChars sep.toList text.toList).map String.ofList

/-- The texts with a separator between each two. -/
def join (sep : String) (texts : List String) : String :=
  String.ofList (joinChars sep.toList (texts.map String.toList))

/-- Whether a text occurs within another. -/
def contains (text needle : String) : Bool :=
  occursIn needle.toList text.toList

/-- Whether a text begins with another. -/
def startsWith (text start : String) : Bool :=
  start.toList.isPrefixOf text.toList

/-- Whether a text ends with another. -/
def endsWith (text ending : String) : Bool :=
  ending.toList.isSuffixOf text.toList

/-! ## Occurrences -/

/-- A text occurs within another if it is a part of it. -/
theorem occursIn_iff {needle cs : List Char} : occursIn needle cs = true ↔ needle <:+: cs := by
  induction cs with
  | nil => simp [occursIn]
  | cons c cs ih => simp [occursIn, List.infix_cons_iff, ih]

/-- A text that occurs within another has a first occurrence there. -/
theorem exists_first {needle cs : List Char} (some : needle ≠ []) (h : occursIn needle cs = true) :
    ∃ before after, cs = before ++ (needle ++ after) ∧ occursIn needle before = false := by
  induction cs with
  | nil => simp [occursIn, some] at h
  | cons c cs ih =>
    by_cases front : needle <+: c :: cs
    · obtain ⟨after, same⟩ := front
      exact ⟨[], after, same.symm, by simpa [occursIn] using some⟩
    · have later : occursIn needle cs = true := by simpa [occursIn, front] using h
      obtain ⟨before, after, rfl, first⟩ := ih later
      refine ⟨c :: before, after, rfl, ?_⟩
      have none : needle.isPrefixOf (c :: before) = false := by
        rw [← Bool.not_eq_true, List.isPrefixOf_iff_prefix]
        exact fun opens => front (opens.trans (List.prefix_append (c :: before) (needle ++ after)))
      rw [occursIn, none, first, Bool.or_false]

end Automation.Text
