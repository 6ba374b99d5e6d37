import Automation.Proofs.Expr.Scan
import Automation.Text.Split

/-!
# The layout of a source

A source is trivia and lexemes in turn. `Laid pos cs answer` says so without the scanner: what is
between two lexemes is blanks and comments, each lexeme is the longest text of a token that stands
there, each token has the byte offset of its lexeme, and the answer is a fault where no token
begins. The answer of the scanner is the only one that fits the layout (`laid_iff`).
-/

namespace Automation.Expr

/-! ## Trivia -/

/-- Blanks and comments. The last comment of a source need not be closed. -/
inductive Trivia (last : Bool) : List Char → Prop where
  | nil : Trivia last []
  | blank {c : Char} {cs : List Char} (blank : Text.isBlank c = true) (h : Trivia last cs) :
    Trivia last (c :: cs)
  | line {body cs : List Char} (inside : '\n' ∉ body) (h : Trivia last cs) :
    Trivia last ('/' :: '/' :: (body ++ '\n' :: cs))
  | block {body cs : List Char} (inside : ¬['*', '/'] <:+: body) (h : Trivia last cs) :
    Trivia last ('/' :: '*' :: (body ++ '*' :: '/' :: cs))
  | openLine {body : List Char} (atEnd : last = true) (inside : '\n' ∉ body) :
    Trivia last ('/' :: '/' :: body)
  | openBlock {body : List Char} (atEnd : last = true) (inside : ¬['*', '/'] <:+: body) :
    Trivia last ('/' :: '*' :: body)

theorem triviaLength_line (cs : List Char) :
    triviaLength ('/' :: '/' :: cs) = 2 + lineCommentLength cs := rfl

theorem triviaLength_block (cs : List Char) :
    triviaLength ('/' :: '*' :: cs) = 2 + blockCommentLength cs := rfl

theorem lineCommentLength_cons (c : Char) (cs : List Char) :
    lineCommentLength (c :: cs) = 1 + if c = '\n' then triviaLength cs else lineCommentLength cs :=
  rfl

/-- A comment that ends with its line goes on to the end of the line. -/
theorem lineCommentLength_append {body : List Char} (inside : '\n' ∉ body) (cs : List Char) :
    lineCommentLength (body ++ cs) = body.length + lineCommentLength cs := by
  induction body with
  | nil => simp
  | cons c body ih =>
    simp only [List.mem_cons, not_or] at inside
    rw [List.cons_append, lineCommentLength_cons, if_neg (Ne.symm inside.1), ih inside.2,
      List.length_cons]
    omega

/-- Inside a comment that has to be closed, what does not close it is passed over. -/
theorem blockCommentLength_cons {c : Char} {cs : List Char} (h : ¬['*', '/'] <+: c :: cs) :
    blockCommentLength (c :: cs) = 1 + blockCommentLength cs := by
  rw [blockCommentLength.eq_def]
  split
  next rest same => exact absurd ⟨rest, same.symm⟩ h
  next same =>
    obtain ⟨rfl, rfl⟩ := List.cons.inj same
    rfl
  next same => cases same

/-- Nothing closes a comment that does not close. -/
theorem blockCommentLength_open {body : List Char} (inside : ¬['*', '/'] <:+: body) :
    blockCommentLength body = body.length := by
  induction body with
  | nil => rfl
  | cons c body ih =>
    rw [List.infix_cons_iff, not_or] at inside
    rw [blockCommentLength_cons inside.1, ih inside.2, List.length_cons, Nat.add_comm]

/-- A comment that has to be closed goes on to where it is. -/
theorem blockCommentLength_closed {body : List Char} (inside : ¬['*', '/'] <:+: body)
    (cs : List Char) :
    blockCommentLength (body ++ '*' :: '/' :: cs) = body.length + 2 + triviaLength cs := by
  induction body with
  | nil => rfl
  | cons c body ih =>
    rw [List.infix_cons_iff, not_or] at inside
    have later : ¬['*', '/'] <+: c :: (body ++ '*' :: '/' :: cs) := by
      rintro ⟨rest, same⟩
      obtain ⟨rfl, follows⟩ := List.cons.inj same
      cases body with
      | nil => exact absurd (List.cons.inj follows).1 (by decide)
      | cons d body =>
        obtain ⟨rfl, -⟩ := List.cons.inj follows
        exact inside.1 ⟨body, rfl⟩
    rw [List.cons_append, blockCommentLength_cons later, ih inside.2, List.length_cons]
    omega

/-- **Trivia is measured to its end.** -/
theorem Trivia.length {last : Bool} {gap : List Char} (h : Trivia last gap) {rest : List Char}
    (atEnd : last = true → rest = []) :
    triviaLength (gap ++ rest) = gap.length + triviaLength rest := by
  induction h with
  | nil => simp
  | blank blank _ ih =>
    rw [List.cons_append, triviaLength_blank blank, ih, List.length_cons]
    omega
  | line inside _ ih =>
    simp only [List.cons_append, List.append_assoc, triviaLength_line,
      lineCommentLength_append inside, lineCommentLength_cons, if_true, ih, List.length_cons,
      List.length_append]
    omega
  | block inside _ ih =>
    simp only [List.cons_append, List.append_assoc, triviaLength_block,
      blockCommentLength_closed inside, ih, List.length_cons, List.length_append]
    omega
  | @openLine body last inside =>
    have length : lineCommentLength body = body.length := by
      have := lineCommentLength_append inside []
      rwa [List.append_nil] at this
    rw [atEnd last, List.append_nil, triviaLength_line, length, List.length_cons, List.length_cons]
    exact Nat.add_comm 2 _
  | openBlock last inside =>
    rw [atEnd last, List.append_nil, triviaLength_block, blockCommentLength_open inside,
      List.length_cons, List.length_cons]
    exact Nat.add_comm 2 _

/-- A text with a closing mark has a first one. -/
theorem exists_first_close {cs : List Char} (h : ['*', '/'] <:+: cs) :
    ∃ body rest, cs = body ++ '*' :: '/' :: rest ∧ ¬['*', '/'] <:+: body := by
  obtain ⟨body, rest, rfl, first⟩ := Text.exists_first (by simp) (Text.occursIn_iff.mpr h)
  refine ⟨body, rest, rfl, fun closes => ?_⟩
  rw [Text.occursIn_iff.mpr closes] at first
  cases first

/-- **Every source begins with trivia**, which another text follows unless it is the whole
source. -/
theorem exists_trivia (cs : List Char) :
    ∃ gap rest, cs = gap ++ rest ∧ Trivia rest.isEmpty gap ∧ triviaLength rest = 0 := by
  induction size : cs.length using Nat.strongRecOn generalizing cs with
  | ind n ih =>
    by_cases solid : triviaLength cs = 0
    · exact ⟨[], cs, rfl, .nil, solid⟩
    rw [triviaLength.eq_def] at solid
    split at solid
    next cs =>
      by_cases ends : '\n' ∈ cs
      · obtain ⟨body, more, rfl, inside⟩ := List.eq_append_cons_of_mem ends
        obtain ⟨gap, rest, rfl, trivia, stop⟩ := ih more.length (by simp at size; omega) more rfl
        exact ⟨_, rest, by simp, .line inside trivia, stop⟩
      · exact ⟨_, [], (List.append_nil _).symm, .openLine rfl ends, rfl⟩
    next cs =>
      by_cases ends : ['*', '/'] <:+: cs
      · obtain ⟨body, more, rfl, inside⟩ := exists_first_close ends
        obtain ⟨gap, rest, rfl, trivia, stop⟩ := ih more.length (by simp at size; omega) more rfl
        exact ⟨_, rest, by simp, .block inside trivia, stop⟩
      · exact ⟨_, [], (List.append_nil _).symm, .openBlock rfl ends, rfl⟩
    next c cs _ _ =>
      split at solid
      next blank =>
        obtain ⟨gap, rest, rfl, trivia, stop⟩ := ih cs.length (by simp at size; omega) cs rfl
        exact ⟨c :: gap, rest, rfl, .blank blank trivia, stop⟩
      next => exact absurd rfl solid
    next => exact absurd rfl solid

/-- Where there is no trivia neither a blank nor a comment begins. -/
theorem triviaLength_eq_zero_iff {cs : List Char} :
    triviaLength cs = 0 ↔ (∀ c ∈ cs.head?, Text.isBlank c = false) ∧ ¬OpensComment cs := by
  refine ⟨fun h => ⟨?_, ?_⟩, fun h => triviaLength_eq_zero h.1 h.2⟩
  · intro c hc
    obtain ⟨rest, rfl⟩ := List.head?_eq_some_iff.mp hc
    cases blank : Text.isBlank c with
    | false => rfl
    | true =>
      rw [triviaLength_blank blank] at h
      omega
  · rintro (⟨rest, rfl⟩ | ⟨rest, rfl⟩)
    · rw [List.cons_append, List.cons_append, triviaLength_line] at h
      omega
    · rw [List.cons_append, List.cons_append, triviaLength_block] at h
      omega

/-! ## Lexemes -/

/-- Whether a text is a token and no longer beginning of what stands there is one. -/
structure Longest (word after : List Char) (kind : TokenKind) : Prop where
  denotes : Denotes word kind
  longest : ∀ other more kind', Denotes other kind' → other ++ more = word ++ after →
    other.length ≤ word.length

/-- **What is read is the longest text of a token.** -/
theorem longest_of_lexeme {c : Char} {rest : List Char} {lex : Lexeme}
    (h : lexeme c rest = .ok lex) :
    ∃ front after, rest = front ++ after ∧ lex.extra = front.length ∧
      Longest (c :: front) after lex.kind := by
  obtain ⟨front, after, rfl, length, text⟩ := denotes_of_lexeme h
  refine ⟨front, after, rfl, length, text, fun other more kind' text' same => ?_⟩
  obtain ⟨d, tail, rfl, spells⟩ := text'.spells
  rw [List.cons_append, List.cons_append] at same
  obtain ⟨rfl, follows⟩ := List.cons.inj same
  obtain ⟨lex', read, least⟩ := spells.least more
  rw [follows, h] at read
  cases read
  simp only [List.length_cons]
  omega

/-- The longest text of a token is read. -/
theorem Longest.lexeme {word after : List Char} {kind : TokenKind} (h : Longest word after kind) :
    ∃ c front, word = c :: front ∧ Text.isBlank c = false ∧
      lexeme c (front ++ after) = .ok ⟨kind, front.length⟩ := by
  obtain ⟨c, front, rfl, spells⟩ := h.denotes.spells
  refine ⟨c, front, rfl, spells.solid, ?_⟩
  obtain ⟨⟨kind', extra⟩, read, least⟩ := spells.least after
  obtain ⟨front', after', same, rfl, text⟩ := denotes_of_lexeme read
  have most : front'.length ≤ front.length := by
    simpa using h.longest (c :: front') after' kind' text (by rw [List.cons_append, ← same]; rfl)
  have length : front.length = front'.length := Nat.le_antisymm least most
  obtain ⟨rfl, -⟩ := List.append_inj same length
  rw [read, h.denotes.unique text]

/-! ## Sources -/

/-- What the tokens of a source are from a byte offset on, or the fault in it. -/
inductive Laid : Nat → List Char → Except ExprError (List Token) → Prop where
  /-- Trivia to the end of the source. -/
  | last {pos : Nat} {gap : List Char} (trivia : Trivia true gap) :
    Laid pos gap (.ok [⟨.eof, pos + byteSize gap⟩])
  /-- Trivia, and then what begins no token. -/
  | stuck {pos : Nat} {gap rest : List Char} {fault : Fault} (trivia : Trivia false gap)
    (stuck : Stuck rest fault) :
    Laid pos (gap ++ rest) (.error (.malformed (pos + byteSize gap) fault))
  /-- Trivia, and then a token, behind which the source goes on. -/
  | token {pos : Nat} {gap word after : List Char} {kind : TokenKind}
    {answer : Except ExprError (List Token)} (trivia : Trivia false gap)
    (plain : ¬OpensComment (word ++ after)) (longest : Longest word after kind)
    (h : Laid (pos + byteSize gap + byteSize word) after answer) :
    Laid pos (gap ++ (word ++ after)) (answer.map (⟨kind, pos + byteSize gap⟩ :: ·))

/-- What the scanner answers fits the layout. -/
theorem laid_scan (pos : Nat) (cs : List Char) : Laid pos cs (scan pos cs) := by
  induction size : cs.length using Nat.strongRecOn generalizing pos cs with
  | ind n ih =>
    obtain ⟨gap, rest, rfl, trivia, stop⟩ := exists_trivia cs
    rw [scan_trivia (trivia.length (by simp))]
    cases rest with
    | nil =>
      rw [scan_nil, List.append_nil]
      exact .last trivia
    | cons c rest =>
      obtain ⟨solid, plain⟩ := triviaLength_eq_zero_iff.mp stop
      cases read : lexeme c rest with
      | error fault =>
        rw [scan_fault stop read]
        exact .stuck trivia (stuck_of_lexeme (solid c rfl) read)
      | ok lex =>
        obtain ⟨kind, extra⟩ := lex
        obtain ⟨front, after, rfl, rfl, longest⟩ := longest_of_lexeme read
        rw [scan_token stop read]
        exact .token trivia plain longest (ih after.length (by simp at size; omega) _ after rfl)

/-- Only what the scanner answers fits the layout. -/
theorem Laid.scan {pos : Nat} {cs : List Char} {answer : Except ExprError (List Token)}
    (h : Laid pos cs answer) : scan pos cs = answer := by
  induction h with
  | @last pos gap trivia =>
    have whole := scan_trivia (trivia.length fun _ => rfl) pos
    rwa [List.append_nil, scan_nil] at whole
  | @stuck pos gap rest fault trivia stuck =>
    rw [scan_trivia (trivia.length (by simp))]
    cases rest with
    | nil => cases stuck
    | cons c rest =>
      obtain ⟨solid, read⟩ := stuck.lexeme
      refine scan_fault (triviaLength_eq_zero_iff.mpr ⟨?_, ?_⟩) read _
      · rintro d ⟨⟩
        exact solid
      · rintro (⟨more, same⟩ | ⟨more, same⟩) <;>
        · obtain ⟨rfl, -⟩ := List.cons.inj same
          cases read
  | @token pos gap word after kind answer trivia plain longest _ ih =>
    obtain ⟨c, front, rfl, solid, read⟩ := longest.lexeme
    rw [scan_trivia (trivia.length (by simp))]
    have stop : triviaLength (c :: (front ++ after)) = 0 := by
      refine triviaLength_eq_zero_iff.mpr ⟨?_, plain⟩
      rintro d ⟨⟩
      exact solid
    rw [List.cons_append, scan_token stop read, ih]

/-- **The answer of the scanner is the one that fits the layout of the source.** -/
theorem laid_iff {pos : Nat} {cs : List Char} {answer : Except ExprError (List Token)} :
    Laid pos cs answer ↔ scan pos cs = answer :=
  ⟨Laid.scan, fun h => h ▸ laid_scan pos cs⟩

/-! ## Offsets -/

theorem byteSize_pos (c : Char) (cs : List Char) : 0 < byteSize (c :: cs) :=
  Nat.add_pos_left c.utf8Size_pos _

/-- Offsets count the bytes of a text. -/
theorem utf8ByteSize_ofList (cs : List Char) : (String.ofList cs).utf8ByteSize = byteSize cs := by
  induction cs with
  | nil => rfl
  | cons c cs ih =>
    rw [← List.singleton_append, String.ofList_append, String.utf8ByteSize_append, ih,
      ← String.singleton_eq_ofList, String.utf8ByteSize_singleton]
    rfl

theorem byteSize_toList (s : String) : byteSize s.toList = s.utf8ByteSize := by
  rw [← utf8ByteSize_ofList, String.ofList_toList]

/-- Where a source is read, the offsets of its tokens grow, and the last one is the end. -/
theorem Laid.offsets {pos : Nat} {cs : List Char} {ts : List Token} (h : Laid pos cs (.ok ts)) :
    (∀ t ∈ ts, pos ≤ t.pos) ∧ ts.Pairwise (fun t u => t.pos < u.pos) ∧
      ts.getLast? = some ⟨.eof, pos + byteSize cs⟩ := by
  generalize read : Except.ok ts = answer at h
  induction h generalizing ts with
  | last =>
    cases read
    simp
  | stuck => cases read
  | @token pos gap word after kind answer _ _ longest _ ih =>
    cases answer with
    | error e => cases read
    | ok rest =>
      cases read
      obtain ⟨least, grow, last⟩ := ih rfl
      obtain ⟨c, front, rfl, _⟩ := longest.lexeme
      have some : 0 < byteSize (c :: front) := byteSize_pos c front
      refine ⟨?_, List.pairwise_cons.mpr ⟨fun t mem => ?_, grow⟩, ?_⟩
      · intro t mem
        rcases List.mem_cons.mp mem with rfl | mem
        · exact Nat.le_add_right ..
        · have := least t mem
          omega
      · have := least t mem
        show pos + byteSize gap < t.pos
        omega
      · rw [List.getLast?_cons, last]
        simp only [Option.getD_some, byteSize_append, Nat.add_assoc]

/-- Where a source is not read, no token begins at the offset of the fault. -/
theorem Laid.fault {pos : Nat} {cs : List Char} {e : ExprError} (h : Laid pos cs (.error e)) :
    ∃ before after fault, cs = before ++ after ∧ Stuck after fault ∧
      e = .malformed (pos + byteSize before) fault := by
  generalize read : Except.error e = answer at h
  induction h with
  | last => cases read
  | stuck _ stuck =>
    cases read
    exact ⟨_, _, _, rfl, stuck, rfl⟩
  | @token pos gap word after kind answer _ _ _ _ ih =>
    cases answer with
    | ok => cases read
    | error =>
      cases read
      obtain ⟨before, rest, fault, rfl, stuck, rfl⟩ := ih rfl
      refine ⟨gap ++ (word ++ before), rest, fault, by simp, stuck, ?_⟩
      simp only [byteSize_append, Nat.add_assoc]

/-- **What the tokens of a source are**: the answer is the one that fits the layout. Where it is
tokens, their offsets grow, and the last one, at the end of the source, is the end. Otherwise no
token begins at the offset of the fault, which is between two characters and not behind the last. A
number is never at fault. -/
theorem tokenize_laid (source : String) :
    (∀ answer, Laid 0 source.toList answer ↔ tokenize source = answer) ∧
      match tokenize source with
      | .ok ts => ts.Pairwise (fun t u => t.pos < u.pos) ∧
          ts.getLast? = some ⟨.eof, source.utf8ByteSize⟩
      | .error e => ∃ before after fault, source = before ++ after ∧ after ≠ "" ∧
          e = .malformed before.utf8ByteSize fault ∧ Stuck after.toList fault ∧
            ∀ text, fault ≠ .invalidNumber text := by
  refine ⟨fun answer => laid_iff, ?_⟩
  have laid : Laid 0 source.toList (tokenize source) := laid_scan 0 source.toList
  cases read : tokenize source with
  | ok ts =>
    obtain ⟨_, grow, last⟩ := (read ▸ laid).offsets
    rw [Nat.zero_add, byteSize_toList] at last
    exact ⟨grow, last⟩
  | error e =>
    obtain ⟨before, after, fault, chars, stuck, rfl⟩ := (read ▸ laid).fault
    refine ⟨String.ofList before, String.ofList after, fault, ?_, ?_, ?_, ?_, ?_⟩
    · rw [← String.ofList_append, ← chars, String.ofList_toList]
    · rw [Ne, String.ofList_eq_empty_iff]
      rintro rfl
      cases stuck
    · rw [Nat.zero_add, utf8ByteSize_ofList]
    · rwa [String.toList_ofList]
    · rintro text rfl
      cases stuck

end Automation.Expr
