import Automation.Proofs.Expr.Layout

/-!
# A source that goes on

What comes behind a source does not change its tokens, if a character stands between them that goes
on with no token, and the source does not end inside a comment that goes on over that character
(`scan_continued`). The tokens of what comes behind are the same as if they stood alone, but for their
offsets (`scan_elsewhere`).
-/

namespace Automation.Expr

/-! ## Characters between sources -/

/-- A character that stands inside the texts of strings only, and opens no comment behind a slash. -/
structure Parting (c : Char) : Prop where
  texts : ∀ {first : Char} {rest : List Char} {kind : TokenKind}, Denotes (first :: rest) kind →
    c ∈ rest → ∃ q : Quote, first = q.char
  slash : c ≠ '/'
  star : c ≠ '*'

/-- A number is made of characters of identifiers, a point and signs. -/
theorem mem_numeral {n : Numeral} {c : Char} (h : c ∈ n.chars) :
    isIdentPart c = true ∨ c ∈ ['.', '+', '-'] := by
  have digits {d : DigitRun} (h : c ∈ d.chars) : isIdentPart c = true :=
    (isIdent_of_isDigit (d.digits c h)).1
  obtain ⟨whole, fraction, exponent⟩ := n
  rcases List.mem_append.mp h with h | h
  · exact .inl (digits h)
  rcases List.mem_append.mp h with h | h
  · cases fraction with
    | none => exact absurd h List.not_mem_nil
    | some f =>
      rcases List.mem_cons.mp h with rfl | h
      · exact .inr (by decide)
      · exact .inl (digits h)
  · cases exponent with
    | none => exact absurd h List.not_mem_nil
    | some e =>
      rcases List.mem_cons.mp h with rfl | h
      · rcases e.letter with same | same <;> rw [same] <;> exact .inl (by decide)
      obtain ⟨capital, sign, run⟩ := e
      rcases List.mem_append.mp h with h | h
      · cases sign with
        | none => exact absurd h List.not_mem_nil
        | plus =>
          obtain rfl := List.mem_singleton.mp h
          exact .inr (by decide)
        | minus =>
          obtain rfl := List.mem_singleton.mp h
          exact .inr (by decide)
      · exact .inl (digits h)

theorem isIdentPart_of_mem_word {s : String} (h : isWord s = true) {c : Char} (mem : c ∈ s.toList) :
    isIdentPart c = true := by
  unfold isWord at h
  split at h
  next => cases h
  next first part chars =>
    simp only [Bool.and_eq_true, List.all_eq_true] at h
    rw [chars] at mem
    rcases List.mem_cons.mp mem with rfl | mem
    · exact isIdentPart_of_isIdentStart h.1
    · exact h.2 c mem

/-- A character parts sources if no identifier, no number and no mark goes on with it. -/
theorem parting_of {c : Char} (part : isIdentPart c = false) (other : c ∉ ['.', '+', '-', '/', '*'])
    (marks : ∀ kind : TokenKind, ∀ spelling ∈ kind.spellings, c ∉ spelling.toList.tail) :
    Parting c := by
  have plain {P : Prop} (h : isIdentPart c = true) : P := by
    rw [part] at h
    cases h
  simp only [List.mem_cons, List.not_mem_nil, or_false, not_or] at other
  refine ⟨fun {first rest kind} text mem => ?_, other.2.2.2.1, other.2.2.2.2⟩
  generalize same : first :: rest = cs at text
  have inside : c ∈ cs := same ▸ List.mem_cons_of_mem _ mem
  cases text with
  | number n =>
    rcases mem_numeral inside with h | h
    · exact plain h
    · simp only [List.mem_cons, List.not_mem_nil, or_false] at h
      exact absurd h (by simp [other])
  | string q written => exact ⟨q, (List.cons.inj same).1⟩
  | ident x =>
    have word : isWord x.1 = true := (Bool.and_eq_true_iff.mp x.2).1
    exact plain (isIdentPart_of_mem_word word inside)
  | mark known =>
    refine absurd ?_ (marks _ _ known)
    rw [← same]
    exact mem

theorem parting_lineEnd : Parting '\n' := by
  refine parting_of (by decide) (by decide) fun kind => ?_
  cases kind with
  | number | string | ident => exact fun spelling none => absurd none List.not_mem_nil
  | _ => decide

theorem parting_rightBracket : Parting ']' := by
  refine parting_of (by decide) (by decide) fun kind => ?_
  cases kind with
  | number | string | ident => exact fun spelling none => absurd none List.not_mem_nil
  | _ => decide

/-! ## Lexemes -/

theorem Denotes.ne_eof {cs : List Char} {kind : TokenKind} (h : Denotes cs kind) : kind ≠ .eof := by
  rintro rfl
  cases h with
  | mark known => cases known

/-- **A token is not longer where the source goes on** behind a character that parts. A text that goes
over that character would be a string, and a string ends with its first closing quote. -/
theorem Longest.continued {word after : List Char} {kind : TokenKind} {c : Char}
    (h : Longest word after kind) (parting : Parting c) (more : List Char) :
    Longest word (after ++ c :: more) kind := by
  refine ⟨h.denotes, fun other tail kind' text same => ?_⟩
  rw [← List.append_assoc] at same
  rcases List.append_eq_append_iff.mp same with ⟨between, inside, -⟩ | ⟨beyond, across, follows⟩
  · exact h.longest other between kind' text inside.symm
  by_cases none : beyond = []
  · exact h.longest other [] kind' text (by rw [across, none, List.append_nil, List.append_nil])
  obtain ⟨first, front, rfl, -, read⟩ := h.lexeme
  obtain ⟨first', inner, rfl, spells⟩ := text.spells
  obtain ⟨rfl, goesOn⟩ : first' = first ∧ inner ++ tail = (front ++ after) ++ c :: more := by
    simpa using same
  have mem : c ∈ inner := by
    obtain ⟨d, beyond, rfl⟩ := List.exists_cons_of_ne_nil none
    obtain rfl : c = d := (List.cons.inj follows).1
    have inside : inner = front ++ (after ++ c :: beyond) := by simpa using across
    simp [inside]
  obtain ⟨q, rfl⟩ := parting.texts text mem
  have character : '\\' ≠ q.char := by cases q <;> decide
  -- The string is closed inside the source, so it is the same one where the source goes on.
  rw [lexeme_quote] at read
  split at read
  next content n body =>
    cases read
    obtain ⟨raw, rest, written, split, length⟩ := quoting_of_stringBody body
    obtain ⟨lex, longer, least⟩ := spells.least tail
    rw [goesOn, split, List.append_assoc, List.cons_append, lexeme_quote,
      written.stringBody character] at longer
    cases longer
    have within : inner.length ≤ raw.length + 1 := least
    simp only [List.length_cons]
    omega
  next => cases read

theorem not_opensComment_continued {word after : List Char} {kind : TokenKind} {c : Char}
    (longest : Longest word after kind) (plain : ¬OpensComment (word ++ after))
    (parting : Parting c) (more : List Char) : ¬OpensComment (word ++ (after ++ c :: more)) := by
  obtain ⟨first, front, rfl, -, -⟩ := longest.lexeme
  rw [← List.append_assoc]
  -- The second character of the comment is one of the source, or the one behind it.
  cases rest : front ++ after with
  | nil =>
    rw [List.cons_append, rest, List.singleton_append]
    simp [OpensComment, List.cons_prefix_cons, parting.slash.symm, parting.star.symm]
  | cons second rest' =>
    rw [List.cons_append, rest] at plain ⊢
    simpa [OpensComment, List.cons_prefix_cons] using plain

/-! ## Comments at the end -/

/-- A source whose end, behind trivia and tokens, is of some form. -/
inductive EndsWith (form : List Char → Prop) : List Char → Prop where
  | here {gap last : List Char} (trivia : Trivia false gap) (h : form last) :
    EndsWith form (gap ++ last)
  | token {gap word after : List Char} {kind : TokenKind} (trivia : Trivia false gap)
    (plain : ¬OpensComment (word ++ after)) (longest : Longest word after kind)
    (h : EndsWith form after) : EndsWith form (gap ++ (word ++ after))

/-- A source ends inside a comment that has to be closed. -/
def EndsInBlock : List Char → Prop :=
  EndsWith fun last => ∃ body, last = '/' :: '*' :: body ∧ ¬['*', '/'] <:+: body

/-- A source ends inside a comment that goes to the end of the line. -/
def EndsInLine : List Char → Prop :=
  EndsWith fun last => ∃ body, last = '/' :: '/' :: body ∧ '\n' ∉ body

theorem EndsWith.suffix {form : List Char → Prop} {cs : List Char} (h : EndsWith form cs) :
    ∃ last, form last ∧ last <:+ cs := by
  induction h with
  | @here gap last _ h => exact ⟨last, h, List.suffix_append gap last⟩
  | @token gap word after kind _ _ _ _ ih =>
    obtain ⟨last, h, suffix⟩ := ih
    exact ⟨last, h, suffix.trans ((List.suffix_append word after).trans (List.suffix_append gap _))⟩

theorem Trivia.append {last : Bool} {gap more : List Char} (h : Trivia false gap)
    (h' : Trivia last more) : Trivia last (gap ++ more) := by
  induction h with
  | nil => exact h'
  | blank blank _ ih => exact .blank blank ih
  | line inside _ ih =>
    rw [List.cons_append, List.cons_append, List.append_assoc]
    exact .line inside ih
  | block inside _ ih =>
    rw [List.cons_append, List.cons_append, List.append_assoc]
    exact .block inside ih
  | openLine atEnd => cases atEnd
  | openBlock atEnd => cases atEnd

/-- A source that opens no comment that has to be closed does not end inside one. -/
theorem not_endsInBlock {cs : List Char} (h : ¬['/', '*'] <:+: cs) : ¬EndsInBlock cs := by
  intro ends
  obtain ⟨last, ⟨body, rfl, -⟩, suffix⟩ := EndsWith.suffix ends
  exact h ((List.prefix_append ['/', '*'] body).isInfix.trans suffix.isInfix)

/-- The trivia at the end of a source is closed, or ends inside a comment. -/
theorem Trivia.ends {gap : List Char} (h : Trivia true gap) :
    Trivia false gap ∨ ∃ front body, Trivia false front ∧
      (gap = front ++ '/' :: '/' :: body ∧ '\n' ∉ body ∨
        gap = front ++ '/' :: '*' :: body ∧ ¬['*', '/'] <:+: body) := by
  -- What stands before the rest stands before its last comment.
  have before {first rest : List Char} (closed : Trivia false first)
      (ih : Trivia false rest ∨ ∃ front body, Trivia false front ∧
        (rest = front ++ '/' :: '/' :: body ∧ '\n' ∉ body ∨
          rest = front ++ '/' :: '*' :: body ∧ ¬['*', '/'] <:+: body)) :
      Trivia false (first ++ rest) ∨ ∃ front body, Trivia false front ∧
        (first ++ rest = front ++ '/' :: '/' :: body ∧ '\n' ∉ body ∨
          first ++ rest = front ++ '/' :: '*' :: body ∧ ¬['*', '/'] <:+: body) := by
    rcases ih with trivia | ⟨front, body, trivia, ⟨rfl, inside⟩ | ⟨rfl, inside⟩⟩
    · exact .inl (closed.append trivia)
    · exact .inr ⟨first ++ front, body, closed.append trivia, .inl ⟨by simp, inside⟩⟩
    · exact .inr ⟨first ++ front, body, closed.append trivia, .inr ⟨by simp, inside⟩⟩
  induction h with
  | nil => exact .inl .nil
  | blank blank _ ih => exact before (.blank blank .nil) ih
  | @line body cs inside _ ih =>
    have whole := before (.line inside .nil) ih
    simpa using whole
  | @block body cs inside _ ih =>
    have whole := before (.block inside .nil) ih
    simpa using whole
  | openLine _ inside => exact .inr ⟨[], _, .nil, .inl ⟨rfl, inside⟩⟩
  | openBlock _ inside => exact .inr ⟨[], _, .nil, .inr ⟨rfl, inside⟩⟩

/-! ## Sources -/

/-- A source whose tokens are known goes on behind trivia that is closed. -/
theorem Trivia.scan {gap : List Char} (h : Trivia false gap) (pos : Nat) (rest : List Char) :
    scan pos (gap ++ rest) = scan (pos + byteSize gap) rest :=
  scan_trivia (h.length (by simp)) pos

/-- The end of a source stands behind the tokens, and nowhere among them. -/
def Terminated (ts : List Token) : Prop :=
  ∃ front stop, ts = front ++ [⟨.eof, stop⟩] ∧ ∀ t ∈ front, t.kind ≠ .eof

/-- The tokens of a source have an end. -/
theorem scan_terminated {pos : Nat} {cs : List Char} {ts : List Token}
    (read : scan pos cs = .ok ts) : Terminated ts := by
  have laid := laid_iff.mpr read
  generalize answered : Except.ok ts = answer at laid
  clear read
  induction laid generalizing ts with
  | last trivia =>
    cases answered
    exact ⟨[], _, rfl, by simp⟩
  | stuck => cases answered
  | @token pos gap word after kind answer _ _ longest _ ih =>
    cases answer with
    | error e => cases answered
    | ok rest =>
      cases answered
      obtain ⟨front, stop, rfl, inside⟩ := ih rfl
      refine ⟨⟨kind, pos + byteSize gap⟩ :: front, stop, rfl, fun t mem => ?_⟩
      rcases List.mem_cons.mp mem with rfl | mem
      · exact longest.denotes.ne_eof
      · exact inside t mem

/-- **A source goes on with what comes behind it**, where a character parts them that no comment goes
over. -/
theorem scan_continued {c : Char} (parting : Parting c) {pos : Nat} {cs : List Char}
    {ts : List Token} (read : scan pos cs = .ok ts) (block : ¬EndsInBlock cs)
    (line : c = '\n' ∨ ¬EndsInLine cs) :
    ∃ front, ts = front ++ [⟨.eof, pos + byteSize cs⟩] ∧
      ∀ more, scan pos (cs ++ c :: more) =
        (scan (pos + byteSize cs) (c :: more)).map (front ++ ·) := by
  have laid := laid_iff.mpr read
  generalize answered : Except.ok ts = answer at laid
  clear read
  induction laid generalizing ts with
  | @last pos gap trivia =>
    cases answered
    refine ⟨[], rfl, fun more => ?_⟩
    rw [show (fun rest : List Token => [] ++ rest) = id from rfl, Except.map_id]
    rcases trivia.ends with closed | ⟨front, body, closed, ⟨rfl, inside⟩ | ⟨rfl, inside⟩⟩
    · exact closed.scan pos _
    · -- The character ends the comment.
      obtain rfl : c = '\n' := line.resolve_right fun h => h (.here closed ⟨body, rfl, inside⟩)
      have comment := (closed.append (.line inside .nil)).scan pos more
      rw [scan_blank (by decide)]
      simpa [byteSize_append, byteSize_cons, Nat.add_assoc] using comment
    · exact absurd (.here closed ⟨body, rfl, inside⟩) block
  | stuck => cases answered
  | @token pos gap word after kind answer trivia plain longest _ ih =>
    cases answer with
    | error e => cases answered
    | ok rest =>
      cases answered
      obtain ⟨front, rfl, goesOn⟩ := ih (fun h => block (.token trivia plain longest h))
        (line.imp_right fun none h => none (.token trivia plain longest h)) rfl
      refine ⟨⟨kind, pos + byteSize gap⟩ :: front, ?_, fun more => ?_⟩
      · simp [byteSize_append, Nat.add_assoc]
      · have read := (Laid.token trivia (not_opensComment_continued longest plain parting more)
          (longest.continued parting more) (laid_iff.mpr (goesOn more))).scan
        simp only [List.append_assoc, byteSize_append, ← Nat.add_assoc] at read ⊢
        rw [read]
        cases scan (pos + byteSize gap + byteSize word + byteSize after) (c :: more) <;> rfl

/-- **The tokens of a source do not depend on where it stands**, but for their offsets. -/
theorem scan_elsewhere {pos : Nat} {cs : List Char} {ts : List Token} (read : scan pos cs = .ok ts)
    (pos' : Nat) :
    ∃ ts', scan pos' cs = .ok ts' ∧ ts'.map Token.kind = ts.map Token.kind := by
  have laid := laid_iff.mpr read
  generalize answered : Except.ok ts = answer at laid
  clear read
  induction laid generalizing ts pos' with
  | last trivia =>
    cases answered
    exact ⟨_, (Laid.last trivia).scan, rfl⟩
  | stuck => cases answered
  | @token pos gap word after kind answer trivia plain longest _ ih =>
    cases answer with
    | error e => cases answered
    | ok rest =>
      cases answered
      obtain ⟨rest', read, same⟩ := ih (pos' + byteSize gap + byteSize word) rfl
      refine ⟨_, (Laid.token trivia plain longest (laid_iff.mpr read)).scan, ?_⟩
      rw [List.map_cons, List.map_cons, same]

end Automation.Expr
