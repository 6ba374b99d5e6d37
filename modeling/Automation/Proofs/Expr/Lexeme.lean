import Automation.Proofs.Expr.Word

/-!
# Lexemes

What text is a token wherever it stands (`Denotes`), and where no token begins (`Stuck`). A text
that is a token is read at least to its end, and no further where a blank follows
(`Denotes.spells`). What is read is a text of the token (`denotes_of_lexeme`), and where nothing is read no token begins
(`stuck_of_lexeme`), so a number that is no number is never met (`lexeme_digit`).
-/

namespace Automation.Expr

/-! ## Texts of tokens -/

/-- The content of a text between quotes, as it is written: any character but the quote and the
backslash stands for itself, and a backslash with any character for the character it escapes. -/
inductive Quoting (quote : Char) : List Char → List Char → Prop where
  | nil : Quoting quote [] []
  | plain {c : Char} {raw text : List Char} (other : c ≠ quote) (plain : c ≠ '\\')
    (h : Quoting quote raw text) : Quoting quote (c :: raw) (c :: text)
  | escaped (c : Char) {raw text : List Char} (h : Quoting quote raw text) :
    Quoting quote ('\\' :: c :: raw) (unescape c :: text)

/-- A text is a token with this content. -/
inductive Denotes : List Char → TokenKind → Prop where
  | number (n : Numeral) : Denotes n.chars (.number n.value)
  | string (q : Quote) {raw text : List Char} (h : Quoting q.char raw text) :
    Denotes (q.char :: (raw ++ [q.char])) (.string (String.ofList text))
  | ident (x : Identifier) : Denotes x.1.toList (.ident x.1)
  | mark {kind : TokenKind} {spelling : String} (known : spelling ∈ kind.spellings) :
    Denotes spelling.toList kind

/-- No token begins a text, and the fault says why: a lone ampersand or bar, a quote that nothing
closes, or a character that begins no token at all. -/
inductive Stuck : List Char → Fault → Prop where
  | ampersand {rest : List Char} (lone : rest.head? ≠ some '&') : Stuck ('&' :: rest) .expectedAnd
  | bar {rest : List Char} (lone : rest.head? ≠ some '|') : Stuck ('|' :: rest) .expectedOr
  | quote (q : Quote) {rest : List Char}
    (unclosed : ∀ raw text after, Quoting q.char raw text → rest ≠ raw ++ q.char :: after) :
    Stuck (q.char :: rest) .unterminatedString
  | character {c : Char} {rest : List Char} (solid : Text.isBlank c = false)
    (begins : ∀ more kind, ¬Denotes (c :: more) kind) :
    Stuck (c :: rest) (.unexpectedCharacter c)

/-- A text with backslashes before backslashes and quotes is written so. -/
theorem Quote.quoting (q : Quote) (cs : List Char) : Quoting q.char (q.escape cs) cs := by
  induction cs with
  | nil => exact .nil
  | cons c rest ih =>
    by_cases special : c = q.char ∨ c = '\\'
    · have same : unescape c = c := by
        rcases special with rfl | rfl
        · cases q <;> decide
        · rfl
      rw [Quote.escape, if_pos special]
      simpa only [same] using Quoting.escaped c ih
    · rw [Quote.escape, if_neg special]
      exact .plain (not_or.mp special).1 (not_or.mp special).2 ih

/-- A word is a text of its token. -/
theorem Word.denotes (w : Word) : Denotes w.chars w.kind := by
  cases w with
  | number n => exact .number n
  | ident x => exact .ident x
  | mark kind spelling known => exact .mark known
  | string s =>
    have text := Denotes.string s.quote (s.quote.quoting s.text.toList)
    rwa [String.ofList_toList] at text

/-! ## Quoted texts -/

/-- The body of a text is read to its closing quote. -/
theorem Quoting.stringBody {quote : Char} (h : '\\' ≠ quote) {raw text : List Char}
    (written : Quoting quote raw text) (after : List Char) :
    stringBody quote (raw ++ quote :: after) = some (text, raw.length + 1) := by
  induction written with
  | nil =>
    rw [List.nil_append, stringBody.eq_def]
    simp
  | plain other plain _ ih =>
    rw [List.cons_append, stringBody.eq_def]
    simp [other, plain, ih]
  | escaped c _ ih =>
    rw [List.cons_append, List.cons_append, stringBody.eq_def]
    simp [h, ih]

/-- What is read of a text is its content, to a quote that closes it. -/
theorem quoting_of_stringBody {quote : Char} {cs text : List Char} {n : Nat}
    (h : stringBody quote cs = some (text, n)) :
    ∃ raw after, Quoting quote raw text ∧ cs = raw ++ quote :: after ∧ n = raw.length + 1 := by
  fun_induction stringBody quote cs generalizing text n with
  | case1 => cases h
  | case2 rest =>
    cases h
    exact ⟨[], rest, .nil, rfl, rfl⟩
  | case3 => cases h
  | case4 c rest escape ih =>
    simp only [Option.map_eq_some_iff, Prod.exists, Prod.mk.injEq] at h
    obtain ⟨text, n, read, rfl, rfl⟩ := h
    obtain ⟨raw, after, written, rfl, rfl⟩ := ih read
    exact ⟨_, after, .escaped c written, rfl, rfl⟩
  | case5 c rest other plain ih =>
    simp only [Option.map_eq_some_iff, Prod.exists, Prod.mk.injEq] at h
    obtain ⟨text, n, read, rfl, rfl⟩ := h
    obtain ⟨raw, after, written, rfl, rfl⟩ := ih read
    exact ⟨_, after, .plain other plain written, rfl, rfl⟩

/-! ## Numbers -/

/-- The characters of a kind end where another stands. -/
theorem span_append {p : Char → Bool} {cs after : List Char} (all : ∀ c ∈ cs, p c = true)
    (stop : ∀ c ∈ after.head?, p c = false) :
    (cs ++ after).takeWhile p = cs ∧ (cs ++ after).dropWhile p = after := by
  rw [List.takeWhile_append_of_pos all, List.dropWhile_append_of_pos all]
  cases after with
  | nil => simp
  | cons c rest => simp [stop c rfl]

theorem leadingDigits_append {ds : List Char} (digits : ∀ c ∈ ds, c.isDigit = true)
    (after : List Char) : leadingDigits (ds ++ after) = ds ++ leadingDigits after :=
  List.takeWhile_append_of_pos digits

/-- Where no digit stands, no digits are read. -/
theorem leadingDigits_stop {cs : List Char} (stop : ∀ c ∈ cs.head?, c.isDigit = false) :
    leadingDigits cs = [] := by
  cases cs with
  | nil => rfl
  | cons c rest => simp [leadingDigits, stop c rfl]

/-- A digit is none of the other characters of numbers. -/
theorem DigitRun.exists_cons (d : DigitRun) :
    ∃ c rest, d.chars = c :: rest ∧ c.isDigit = true ∧ c ≠ '+' ∧ c ≠ '-' := by
  obtain ⟨c, rest, chars⟩ := List.exists_cons_of_ne_nil d.nonempty
  have digit : c.isDigit = true := d.digits c (by simp [chars])
  refine ⟨c, rest, chars, digit, ?_, ?_⟩ <;> rintro rfl <;> cases digit

/-- The letter of an exponent. -/
theorem Exponent.letter (e : Exponent) :
    (if e.capital then 'E' else 'e') = 'e' ∨ (if e.capital then 'E' else 'e') = 'E' := by
  cases e.capital <;> simp

theorem Exponent.exists_cons (e : Exponent) :
    ∃ c rest, e.chars = c :: rest ∧ (c = 'e' ∨ c = 'E') :=
  ⟨_, _, rfl, e.letter⟩

/-- A sign is read before digits. -/
theorem signLength_chars (sign : ExponentSign) (d : DigitRun) (after : List Char) :
    signLength (sign.chars ++ (d.chars ++ after)) = sign.chars.length := by
  cases sign with
  | plus => rfl
  | minus => rfl
  | none =>
    obtain ⟨c, rest, chars, _, plus, minus⟩ := d.exists_cons
    rw [chars]
    unfold signLength
    split
    next h => exact absurd (List.cons.inj h).1 plus
    next h => exact absurd (List.cons.inj h).1 minus
    next => rfl

/-- An exponent is read to the last digit that follows. -/
theorem exponentLength_chars (e : Exponent) (after : List Char) :
    exponentLength (e.chars ++ after) = e.chars.length + (leadingDigits after).length := by
  have some : ¬(e.digits.chars ++ leadingDigits after).isEmpty := by simp [e.digits.nonempty]
  simp only [Exponent.chars, List.cons_append, List.append_assoc, exponentLength, e.letter, if_true,
    signLength_chars, List.drop_left, leadingDigits_append e.digits.digits]
  rw [if_neg some]
  simp only [List.length_append, List.length_cons]
  omega

/-- A fraction is read to the last digit that follows. -/
theorem fractionLength_chars (f : DigitRun) (after : List Char) :
    fractionLength ('.' :: (f.chars ++ after)) =
      (f.chars.length + 1) + (leadingDigits after).length := by
  have some : ¬(f.chars ++ leadingDigits after).isEmpty := by simp [f.nonempty]
  simp only [fractionLength, leadingDigits_append f.digits]
  rw [if_neg some, List.length_append]
  omega

/-- Where no point stands there is no fraction. -/
theorem fractionLength_eq_zero {cs : List Char} (stop : cs.head? ≠ some '.') :
    fractionLength cs = 0 := by
  unfold fractionLength
  split
  next => exact absurd rfl stop
  next => rfl

theorem exponentLength_eq_zero {cs : List Char}
    (stop : ∀ c ∈ cs.head?, c ≠ 'e' ∧ c ≠ 'E') : exponentLength cs = 0 := by
  cases cs with
  | nil => rfl
  | cons c rest =>
    simp only [exponentLength, if_neg (not_or.mpr (stop c rfl))]

/-- A number is its whole part with what follows it. -/
theorem numberLength_append {whole : List Char} (digits : ∀ c ∈ whole, c.isDigit = true)
    {rest : List Char} (stop : ∀ c ∈ rest.head?, c.isDigit = false) :
    numberLength (whole ++ rest) =
      whole.length + (fractionLength rest + exponentLength (rest.drop (fractionLength rest))) := by
  have read : leadingDigits (whole ++ rest) = whole := by
    rw [leadingDigits_append digits, leadingDigits_stop stop, List.append_nil]
  simp only [numberLength, read, List.drop_left, List.drop_length_add_append, Nat.add_assoc]

/-- A numeral is read at least to its end, and where it stands apart no further. -/
theorem numberLength_chars (n : Numeral) (after : List Char) :
    ∃ more, numberLength (n.chars ++ after) = n.chars.length + more ∧ (Apart after → more = 0) := by
  obtain ⟨whole, fraction, exponent⟩ := n
  cases exponent with
  | some e =>
    -- The letter of the exponent ends the digits before it.
    obtain ⟨c, rest, chars, letter⟩ := e.exists_cons
    have stop : c.isDigit = false ∧ c ≠ '.' := by
      rcases letter with rfl | rfl <;> exact ⟨rfl, by decide⟩
    have noDigits : leadingDigits (e.chars ++ after) = [] := by
      rw [chars]
      exact leadingDigits_stop (by simpa using stop.1)
    refine ⟨(leadingDigits after).length, ?_, fun h => by rw [leadingDigits_stop h.not_digit]; rfl⟩
    cases fraction with
    | some f =>
      have length :
          fractionLength ('.' :: (f.chars ++ (e.chars ++ after))) = f.chars.length + 1 := by
        rw [fractionLength_chars, noDigits, List.length_nil, Nat.add_zero]
      simp only [Numeral.chars, Option.map_some, Option.getD_some, List.append_assoc,
        List.cons_append]
      rw [numberLength_append whole.digits (by simp), length, List.drop_succ_cons, List.drop_left,
        exponentLength_chars]
      simp only [List.length_append, List.length_cons]
      omega
    | none =>
      have length : fractionLength (e.chars ++ after) = 0 := by
        rw [chars]
        exact fractionLength_eq_zero (by simpa using stop.2)
      simp only [Numeral.chars, Option.map_some, Option.map_none, Option.getD_some,
        Option.getD_none, List.append_assoc, List.nil_append]
      rw [numberLength_append whole.digits (by simpa [chars] using stop.1), length, List.drop_zero,
        exponentLength_chars]
      simp only [List.length_append]
      omega
  | none =>
    have noExponent (h : Apart after) : exponentLength after = 0 :=
      exponentLength_eq_zero fun c hc => by
        constructor <;> rintro rfl <;> exact absurd (h _ hc) (by decide)
    cases fraction with
    | some f =>
      simp only [Numeral.chars, Option.map_some, Option.map_none, Option.getD_some,
        Option.getD_none, List.append_nil, List.append_assoc, List.cons_append]
      rw [numberLength_append whole.digits (by simp), fractionLength_chars]
      refine ⟨(leadingDigits after).length + exponentLength (('.' :: (f.chars ++ after)).drop
        (f.chars.length + 1 + (leadingDigits after).length)), ?_, fun h => ?_⟩
      · simp only [List.length_append, List.length_cons]
        omega
      · rw [leadingDigits_stop h.not_digit, List.length_nil, Nat.add_zero, List.drop_succ_cons,
          List.drop_left, noExponent h]
    | none =>
      simp only [Numeral.chars, Option.map_none, Option.getD_none, List.append_nil]
      have least : whole.chars.length ≤ numberLength (whole.chars ++ after) := by
        simp only [numberLength, leadingDigits_append whole.digits, List.length_append]
        omega
      refine ⟨_, (Nat.add_sub_cancel' least).symm, fun h => ?_⟩
      have noFraction : fractionLength after = 0 :=
        fractionLength_eq_zero fun hc => absurd (h _ hc) (by decide)
      rw [numberLength_append whole.digits h.not_digit, noFraction, List.drop_zero, noExponent h]
      omega

/-- The digits of a text are its beginning. -/
theorem leadingDigits_eq_take (cs : List Char) :
    leadingDigits cs = cs.take (leadingDigits cs).length :=
  List.prefix_iff_eq_take.mp (List.takeWhile_prefix _)

theorem isDigit_of_mem_leadingDigits {cs : List Char} {c : Char} (h : c ∈ leadingDigits cs) :
    c.isDigit = true := by
  have all : (cs.takeWhile Char.isDigit).all Char.isDigit = true := List.all_takeWhile
  exact List.all_eq_true.mp all c h

/-- The digits that a text begins with, if there are any. -/
def DigitRun.leading (cs : List Char) (some : leadingDigits cs ≠ []) : DigitRun :=
  ⟨leadingDigits cs, some, fun _ => isDigit_of_mem_leadingDigits⟩

theorem exists_fraction (cs : List Char) : ∃ f : Option DigitRun,
    (f.map fun f => '.' :: f.chars).getD [] = cs.take (fractionLength cs) := by
  unfold fractionLength
  split
  next rest =>
    by_cases none : leadingDigits rest = []
    · exact ⟨.none, by simp [none]⟩
    · refine ⟨some (.leading rest none), ?_⟩
      simp only [List.isEmpty_iff, if_neg none, List.take_succ_cons, ← leadingDigits_eq_take]
      rfl
  next => exact ⟨none, rfl⟩

theorem exists_sign (cs : List Char) :
    ∃ sign : ExponentSign, sign.chars = cs.take (signLength cs) := by
  unfold signLength
  split
  · exact ⟨.plus, rfl⟩
  · exact ⟨.minus, rfl⟩
  · exact ⟨.none, rfl⟩

theorem exists_exponent (cs : List Char) : ∃ e : Option Exponent,
    (e.map Exponent.chars).getD [] = cs.take (exponentLength cs) := by
  cases cs with
  | nil => exact ⟨none, rfl⟩
  | cons c rest =>
    by_cases letter : c = 'e' ∨ c = 'E'
    · obtain ⟨sign, chars⟩ := exists_sign rest
      by_cases none : leadingDigits (rest.drop (signLength rest)) = []
      · exact ⟨.none, by simp [exponentLength, letter, none]⟩
      · refine ⟨some ⟨c == 'E', sign, .leading _ none⟩, ?_⟩
        have capital : (if (c == 'E') then 'E' else 'e') = c := by
          rcases letter with rfl | rfl <;> rfl
        simp only [exponentLength, letter, if_true, List.isEmpty_iff, if_neg none,
          List.take_succ_cons, List.take_add, ← leadingDigits_eq_take, ← chars]
        simp only [Option.map_some, Option.getD_some, Exponent.chars, capital]
        rfl
    · exact ⟨none, by simp [exponentLength, letter]⟩

/-- **What a digit begins is read as far as a numeral goes.** -/
theorem exists_numeral {c : Char} (digit : c.isDigit = true) (rest : List Char) :
    ∃ n : Numeral, n.chars = (c :: rest).take (numberLength (c :: rest)) := by
  have some : leadingDigits (c :: rest) ≠ [] := by simp [leadingDigits, digit]
  let tail := (c :: rest).drop (leadingDigits (c :: rest)).length
  obtain ⟨fraction, point⟩ := exists_fraction tail
  obtain ⟨exponent, letter⟩ := exists_exponent (tail.drop (fractionLength tail))
  refine ⟨⟨.leading _ some, fraction, exponent⟩, ?_⟩
  simp only [Numeral.chars, point, letter, numberLength, Nat.add_assoc, List.take_add,
    ← leadingDigits_eq_take, tail, List.drop_drop]
  rfl

theorem signed_digits (d : DigitRun) (rest : List Char) :
    Decimal.signed (d.chars ++ rest) = (false, d.chars ++ rest) := by
  obtain ⟨c, more, chars, _, plus, minus⟩ := d.exists_cons
  rw [chars, List.cons_append]
  unfold Decimal.signed
  split
  next h => exact absurd (List.cons.inj h).1 plus
  next h => exact absurd (List.cons.inj h).1 minus
  next => rfl

theorem exponent?_chars (e : Exponent) : Decimal.exponent? e.chars = some e.value := by
  have signed : Decimal.signed (e.sign.chars ++ e.digits.chars) = (e.negative, e.digits.chars) := by
    unfold Exponent.negative
    cases e.sign with
    | plus => rfl
    | minus => rfl
    | none => simpa [ExponentSign.chars] using signed_digits e.digits []
  have shape : (e.digits.chars.isEmpty || !e.digits.chars.all Char.isDigit) = false := by
    simpa [e.digits.nonempty] using e.digits.digits
  simp only [Exponent.chars, Decimal.exponent?, e.letter, if_true, signed, shape, Bool.false_eq_true,
    if_false]
  rfl

/-- What an exponent that may be left out begins with. -/
theorem exponent_head (e : Option Exponent) :
    ∀ c ∈ ((e.map Exponent.chars).getD []).head?, c.isDigit = false ∧ c ≠ '.' := by
  intro c hc
  cases e with
  | none => cases hc
  | some e =>
    obtain ⟨d, rest, chars, letter⟩ := e.exists_cons
    rw [Option.map_some, Option.getD_some, chars] at hc
    cases hc
    rcases letter with rfl | rfl <;> exact ⟨rfl, by decide⟩

/-- A fraction is read with its digits, and where there is none, none is read. -/
theorem fraction_chars (n : Numeral) {rest : List Char}
    (ends : ∀ c ∈ rest.head?, c.isDigit = false ∧ c ≠ '.') :
    Decimal.fraction ((n.fraction.map fun f => '.' :: f.chars).getD [] ++ rest) =
      (n.fractionDigits, rest) := by
  unfold Numeral.fractionDigits
  cases n.fraction with
  | some f =>
    obtain ⟨taken, dropped⟩ := span_append f.digits fun c hc => (ends c hc).1
    exact Prod.ext taken dropped
  | none =>
    simp only [Option.map_none, Option.getD_none, List.nil_append]
    unfold Decimal.fraction
    split
    next => exact absurd rfl (ends '.' rfl).2
    next => rfl

/-- **A numeral is a decimal text**, and its number is the value of the numeral. -/
theorem read?_chars (n : Numeral) : Decimal.read? n.chars = some n.value := by
  have ends := exponent_head n.exponent
  have power : Decimal.exponent? ((n.exponent.map Exponent.chars).getD []) =
      some ((n.exponent.map Exponent.value).getD 0) := by
    cases n.exponent with
    | none => rfl
    | some e => exact exponent?_chars e
  have some : ¬(n.whole.chars.isEmpty && n.fractionDigits.isEmpty) := by simp [n.whole.nonempty]
  unfold Numeral.value Numeral.chars
  generalize (n.exponent.map Exponent.chars).getD [] = rest at ends power
  have stop : ∀ c ∈ ((n.fraction.map fun f => '.' :: f.chars).getD [] ++ rest).head?,
      c.isDigit = false := by
    intro c hc
    cases part : n.fraction with
    | none => exact (ends c (by simpa [part] using hc)).1
    | some f =>
      obtain rfl : '.' = c := by simpa [part] using hc
      rfl
  obtain ⟨taken, dropped⟩ := span_append n.whole.digits stop
  simp only [Decimal.read?, signed_digits, taken, dropped, fraction_chars n ends, if_neg some,
    power, Option.map_some]

/-! ## Reading a token -/

/-- Where a text begins a comment. -/
def OpensComment (cs : List Char) : Prop :=
  ['/', '/'] <+: cs ∨ ['/', '*'] <+: cs

/-- Where neither a blank nor a comment begins there is no trivia. -/
theorem triviaLength_eq_zero {cs : List Char} (solid : ∀ c ∈ cs.head?, Text.isBlank c = false)
    (plain : ¬OpensComment cs) : triviaLength cs = 0 := by
  unfold triviaLength
  split
  next rest => exact absurd (.inl ⟨rest, rfl⟩) plain
  next rest => exact absurd (.inr ⟨rest, rfl⟩) plain
  next c rest _ _ => simp [solid c rfl]
  next => rfl

/-- What opens no comment: a text whose first character is no slash, or a slash that stands
apart. -/
theorem not_opensComment {c : Char} {rest after : List Char} (slash : c = '/' → rest = [])
    (h : Apart after) : ¬OpensComment (c :: (rest ++ after)) := by
  rintro (⟨more, same⟩ | ⟨more, same⟩) <;>
  · obtain ⟨rfl, follows⟩ := List.cons.inj same
    rw [slash rfl, List.nil_append] at follows
    subst follows
    exact absurd (h _ rfl) (by decide)

/-- Whether a character and what follows it are read as a token: at least to its end wherever it
stands, and no further where it stands apart. -/
structure Spells (c : Char) (rest : List Char) (kind : TokenKind) : Prop where
  /-- It is no trivia: neither a blank, nor the beginning of a comment. -/
  solid : Text.isBlank c = false
  slash : c = '/' → rest = []
  least : ∀ after, ∃ lex, lexeme c (rest ++ after) = .ok lex ∧ rest.length ≤ lex.extra
  apart : ∀ after, Apart after → lexeme c (rest ++ after) = .ok ⟨kind, rest.length⟩

/-- A token that nothing goes on with. -/
theorem Spells.of_exact {c : Char} {rest : List Char} {kind : TokenKind}
    (solid : Text.isBlank c = false) (slash : c = '/' → rest = [])
    (reads : ∀ after, lexeme c (rest ++ after) = .ok ⟨kind, rest.length⟩) : Spells c rest kind :=
  ⟨solid, slash, fun after => ⟨_, reads after, Nat.le_refl _⟩, fun after _ => reads after⟩

/-- What a letter begins is read as far as an identifier goes. -/
theorem lexeme_letter {c : Char} (start : isIdentStart c = true) (rest : List Char) :
    lexeme c rest = .ok ⟨.ofWord (String.ofList (c :: rest.takeWhile isIdentPart)),
      (rest.takeWhile isIdentPart).length⟩ := by
  have quoted : ¬(c = '"' ∨ c = '\'') := by
    rintro (rfl | rfl) <;> exact absurd start (by decide)
  have digit : ¬c.isDigit = true := fun digit => by simp [(isIdent_of_isDigit digit).2] at start
  unfold lexeme
  split
  all_goals try exact absurd start (by decide)
  rw [if_neg quoted, if_neg digit, if_pos start]

/-- A word is read as the token of the word. -/
theorem spells_word {s : String} (h : isWord s = true) :
    ∃ c rest, s.toList = c :: rest ∧ Spells c rest (.ofWord s) := by
  unfold isWord at h
  split at h
  next => cases h
  next c part chars =>
    simp only [Bool.and_eq_true, List.all_eq_true] at h
    obtain ⟨start, parts⟩ := h
    have slash : c ≠ '/' := by
      rintro rfl
      exact absurd start (by decide)
    have same : s = String.ofList (c :: part) := by rw [← chars, String.ofList_toList]
    refine ⟨c, part, chars, isBlank_of_isIdentPart (isIdentPart_of_isIdentStart start),
      fun h => absurd h slash, fun after => ⟨_, lexeme_letter start _, ?_⟩, fun after h => ?_⟩
    · simp [List.takeWhile_append_of_pos parts]
    · rw [lexeme_letter start, (span_append parts h.not_part).1, same]

/-- What a quote begins is read as a text. -/
theorem lexeme_quote (q : Quote) (rest : List Char) :
    lexeme q.char rest =
      match stringBody q.char rest with
      | some (s, n) => .ok ⟨.string (String.ofList s), n⟩
      | none => .error .unterminatedString := by
  cases q <;> rfl

/-- A quoted text is read up to its closing quote, whatever follows. -/
theorem lexeme_quoting (q : Quote) {raw text : List Char} (h : Quoting q.char raw text)
    (after : List Char) : lexeme q.char (raw ++ q.char :: after) =
      .ok ⟨.string (String.ofList text), raw.length + 1⟩ := by
  have escape : '\\' ≠ q.char := by cases q <;> decide
  rw [lexeme_quote, h.stringBody escape]

/-- A quote is neither blank nor a slash. -/
theorem Quote.solid (q : Quote) : Text.isBlank q.char = false ∧ q.char ≠ '/' := by
  cases q <;> decide

theorem spells_string (q : Quote) {raw text : List Char} (h : Quoting q.char raw text) :
    Spells q.char (raw ++ [q.char]) (.string (String.ofList text)) := by
  obtain ⟨solid, slash⟩ := q.solid
  refine .of_exact solid (fun h => absurd h slash) fun after => ?_
  rw [List.append_assoc, List.singleton_append, lexeme_quoting q h, List.length_append,
    List.length_singleton]

theorem Numeral.exists_cons (n : Numeral) :
    ∃ c rest, n.chars = c :: rest ∧ c.isDigit = true := by
  obtain ⟨c, rest, whole, digit, _⟩ := n.whole.exists_cons
  exact ⟨c, _, by rw [Numeral.chars, whole]; rfl, digit⟩

/-- What a digit begins is read as the longest numeral, and it is a number. -/
theorem lexeme_digit {c : Char} (digit : c.isDigit = true) (rest : List Char) :
    ∃ (n : Numeral) (front : List Char), n.chars = (c :: rest).take (numberLength (c :: rest)) ∧
      n.chars = c :: front ∧ lexeme c rest = .ok ⟨.number n.value, front.length⟩ := by
  have quoted : ¬(c = '"' ∨ c = '\'') := by
    rintro (rfl | rfl) <;> cases digit
  obtain ⟨n, chars⟩ := exists_numeral digit rest
  obtain ⟨d, front, cons, _⟩ := n.exists_cons
  have same : d = c := by
    have front := cons ▸ chars ▸ List.take_prefix (numberLength (c :: rest)) (c :: rest)
    exact (List.cons_prefix_cons.mp front).1
  subst same
  refine ⟨n, front, chars, cons, ?_⟩
  unfold lexeme
  split
  all_goals try exact absurd digit (by decide)
  rw [if_neg quoted, if_pos digit]
  simp only [← chars, read?_chars]
  simp [cons]

theorem spells_number (n : Numeral) :
    ∃ c rest, n.chars = c :: rest ∧ Spells c rest (.number n.value) := by
  obtain ⟨c, rest, chars, digit⟩ := n.exists_cons
  have read (after : List Char) : ∃ (m : Numeral) (more : Nat), (Apart after → more = 0) ∧
      m.chars = c :: (rest ++ after.take more) ∧
        lexeme c (rest ++ after) = .ok ⟨.number m.value, (rest ++ after.take more).length⟩ := by
    obtain ⟨m, front, longest, cons, read⟩ := lexeme_digit digit (rest ++ after)
    obtain ⟨more, length, apart⟩ := numberLength_chars n after
    rw [← List.cons_append, ← chars, length, List.take_length_add_append, chars, cons] at longest
    obtain rfl : front = rest ++ after.take more := (List.cons.inj longest).2
    exact ⟨m, more, apart, cons, read⟩
  refine ⟨c, rest, chars, isBlank_of_isIdentPart (isIdent_of_isDigit digit).1, ?_, ?_, ?_⟩
  · rintro rfl
    cases digit
  · intro after
    obtain ⟨m, more, _, _, read⟩ := read after
    exact ⟨_, read, by simp⟩
  · intro after h
    obtain ⟨m, more, apart, same, read⟩ := read after
    rw [apart h, List.take_zero, List.append_nil] at same read
    have value : m.value = n.value := by
      have number := read?_chars m
      rw [same, ← chars, read?_chars n] at number
      exact (Option.some.inj number).symm
    rw [read, value]

/-- What stands apart does not go on with a sign that operators are made of. -/
theorem Apart.not_sign {cs : List Char} (h : Apart cs) :
    cs = [] ∨ ∃ c rest, cs = c :: rest ∧ c ≠ '=' ∧ c ≠ '~' := by
  cases cs with
  | nil => exact .inl rfl
  | cons c rest =>
    have blank : Text.isBlank c = true := h c rfl
    refine .inr ⟨c, rest, rfl, ?_, ?_⟩ <;>
    · rintro rfl
      exact absurd blank (by decide)

/-- An operator that others begin with is read alone where no sign follows it. -/
theorem spells_sign : Spells '=' [] .assign ∧ Spells '!' [] .bang ∧ Spells '<' [] .less ∧
    Spells '>' [] .greater := by
  refine ⟨?_, ?_, ?_, ?_⟩ <;>
  · refine ⟨by decide, by decide, fun after => ?_, fun after h => ?_⟩
    · simp only [List.nil_append, lexeme]
      split <;> exact ⟨_, rfl, Nat.zero_le _⟩
    · obtain rfl | ⟨c, rest, rfl, equals, tilde⟩ := h.not_sign
      · rfl
      · simp [lexeme, equals, tilde]

/-- The same for the operators that one more sign may follow. -/
theorem spells_sign_equals : Spells '=' ['='] .eqEq ∧ Spells '!' ['='] .notEq := by
  refine ⟨?_, ?_⟩ <;>
  · refine ⟨by decide, by decide, fun after => ?_, fun after h => ?_⟩
    · cases after with
      | nil => exact ⟨_, rfl, Nat.le_refl 1⟩
      | cons c rest =>
        by_cases equals : c = '='
        · exact ⟨_, by rw [equals]; rfl, by decide⟩
        · exact ⟨_, by simp [lexeme, equals]; rfl, by decide⟩
    · obtain rfl | ⟨c, rest, rfl, equals, _⟩ := h.not_sign
      · rfl
      · simp [lexeme, equals]

/-- Every spelling of a token is read as the token. -/
theorem spells_mark {kind : TokenKind} {spelling : String} (known : spelling ∈ kind.spellings) :
    ∃ c rest, spelling.toList = c :: rest ∧ Spells c rest kind := by
  have keyword {s : String} {kind : TokenKind} (h : isWord s = true) (same : .ofWord s = kind) :
      ∃ c rest, s.toList = c :: rest ∧ Spells c rest kind := same ▸ spells_word h
  have symbol {c : Char} {rest : List Char} {kind : TokenKind} (solid : Text.isBlank c = false)
      (slash : c = '/' → rest = [])
      (reads : ∀ after, lexeme c (rest ++ after) = .ok ⟨kind, rest.length⟩) :
      ∃ d more, c :: rest = d :: more ∧ Spells d more kind :=
    ⟨c, rest, rfl, .of_exact solid slash reads⟩
  obtain ⟨assign, bang, less, greater⟩ := spells_sign
  obtain ⟨eqEq, notEq⟩ := spells_sign_equals
  cases kind <;> simp only [TokenKind.spellings, List.mem_cons, List.not_mem_nil, or_false] at known
  case kwLet => rcases known with rfl | rfl | rfl <;> exact keyword (by decide) rfl
  case kwIn | kwNull => rcases known with rfl | rfl <;> exact keyword (by decide) rfl
  case kwIf | kwElse | kwFor | kwReturn | kwThrow | kwTrue | kwFalse =>
    subst known
    exact keyword (by decide) rfl
  case assign =>
    subst known
    exact ⟨'=', [], rfl, assign⟩
  case bang =>
    subst known
    exact ⟨'!', [], rfl, bang⟩
  case less =>
    subst known
    exact ⟨'<', [], rfl, less⟩
  case greater =>
    subst known
    exact ⟨'>', [], rfl, greater⟩
  case eqEq =>
    rcases known with rfl | rfl
    · exact ⟨'=', ['='], rfl, eqEq⟩
    · exact symbol (by decide) (by decide) fun _ => rfl
  case notEq =>
    rcases known with rfl | rfl
    · exact ⟨'!', ['='], rfl, notEq⟩
    · exact symbol (by decide) (by decide) fun _ => rfl
  all_goals
    subst known
    exact symbol (by decide) (by decide) fun _ => rfl

/-- **A text of a token is read as the token**, wherever it stands to its end at least. -/
theorem Denotes.spells {cs : List Char} {kind : TokenKind} (h : Denotes cs kind) :
    ∃ c rest, cs = c :: rest ∧ Spells c rest kind := by
  cases h with
  | number n => exact spells_number n
  | string q written => exact ⟨_, _, rfl, spells_string q written⟩
  | mark known => exact spells_mark known
  | ident x =>
    obtain ⟨s, h⟩ := x
    simp only [isIdentifier, Bool.and_eq_true, Bool.not_eq_true'] at h
    have free : s ∉ reservedWords := by simpa using h.2
    have spelled := spells_word h.1
    rwa [TokenKind.ofWord_eq_ident free] at spelled

/-- A text is a token with one content only. -/
theorem Denotes.unique {cs : List Char} {kind kind' : TokenKind} (h : Denotes cs kind)
    (h' : Denotes cs kind') : kind = kind' := by
  obtain ⟨c, rest, rfl, spells⟩ := h.spells
  obtain ⟨d, more, same, spells'⟩ := h'.spells
  obtain ⟨rfl, rfl⟩ := List.cons.inj same
  have read := (spells.apart [] .nil).symm.trans (spells'.apart [] .nil)
  cases read
  rfl

/-! ## What is read -/

/-- The token of a word is an identifier or a keyword in one of its spellings. -/
theorem denotes_ofWord {s : String} (h : isWord s = true) : Denotes s.toList (.ofWord s) := by
  by_cases reserved : s ∈ reservedWords
  · refine .mark ?_
    simp only [reservedWords, List.mem_cons, List.not_mem_nil, or_false] at reserved
    rcases reserved with rfl | rfl | rfl | rfl | rfl | rfl | rfl | rfl | rfl | rfl | rfl | rfl |
      rfl | rfl <;> decide
  · rw [TokenKind.ofWord_eq_ident reserved]
    exact .ident ⟨s, by simp [isIdentifier, h, reserved]⟩

theorem denotes_symbol {cs : List Char} {kind : TokenKind}
    (known : String.ofList cs ∈ kind.spellings) : Denotes cs kind := by
  have text := Denotes.mark known
  rwa [String.toList_ofList] at text

/-- **What is read is a text of the token**, and it is where the source goes on. -/
theorem denotes_of_lexeme {c : Char} {rest : List Char} {lex : Lexeme}
    (h : lexeme c rest = .ok lex) :
    ∃ front after, rest = front ++ after ∧ lex.extra = front.length ∧
      Denotes (c :: front) lex.kind := by
  have read := h
  unfold lexeme at read
  split at read
  case h_22 =>
    split at read
    next quoted =>
      obtain ⟨q, rfl⟩ : ∃ q : Quote, c = q.char := by
        rcases quoted with rfl | rfl
        · exact ⟨.double, rfl⟩
        · exact ⟨.single, rfl⟩
      split at read
      next text n body =>
        obtain ⟨raw, after, written, rfl, rfl⟩ := quoting_of_stringBody body
        cases read
        exact ⟨raw ++ [q.char], after, by simp, by simp, .string q written⟩
      next => cases read
    split at read
    next digit =>
      obtain ⟨n, front, longest, cons, read⟩ := lexeme_digit digit rest
      cases read.symm.trans h
      obtain ⟨after, rfl⟩ : front <+: rest := by
        have front := cons ▸ longest ▸ List.take_prefix (numberLength (c :: rest)) (c :: rest)
        exact (List.cons_prefix_cons.mp front).2
      exact ⟨front, after, rfl, rfl, cons ▸ .number n⟩
    split at read
    next start =>
      cases read
      have word : isWord (String.ofList (c :: rest.takeWhile isIdentPart)) = true := by
        simp [isWord, start, List.all_takeWhile]
      have text := denotes_ofWord word
      rw [String.toList_ofList] at text
      exact ⟨_, _, (List.takeWhile_append_dropWhile ..).symm, rfl, text⟩
    next => cases read
  all_goals repeat' split at read
  all_goals cases read
  -- What is left are the symbols, each with the characters that it goes on with.
  all_goals first
    | exact ⟨[], _, rfl, rfl, denotes_symbol (by decide)⟩
    | exact ⟨[_], _, rfl, rfl, denotes_symbol (by decide)⟩
    | exact ⟨[_, _], _, rfl, rfl, denotes_symbol (by decide)⟩

/-- A character that begins no token in one text begins none in any. -/
theorem lexeme_unexpected {c d : Char} {rest : List Char}
    (h : lexeme c rest = .error (.unexpectedCharacter d)) (more : List Char) :
    lexeme c more = .error (.unexpectedCharacter d) := by
  unfold lexeme at h ⊢
  split at h
  case h_22 =>
    split at h
    next => split at h <;> cases h
    split at h
    next => simp only at h; split at h <;> cases h
    split at h
    next => cases h
    next quoted digit start =>
      cases h
      split
      all_goals first | contradiction | rfl
  all_goals repeat' split at h
  all_goals cases h

/-- **Where nothing is read no token begins.** -/
theorem stuck_of_lexeme {c : Char} {rest : List Char} {fault : Fault}
    (solid : Text.isBlank c = false) (h : lexeme c rest = .error fault) :
    Stuck (c :: rest) fault := by
  have read := h
  unfold lexeme at read
  split at read
  case h_20 | h_21 =>
    split at read
    next => cases read
    next other =>
      cases read
      first | refine .ampersand fun h => ?_ | refine .bar fun h => ?_
      obtain ⟨more, rfl⟩ := List.head?_eq_some_iff.mp h
      exact other more rfl
  case h_22 =>
    split at read
    next quoted =>
      split at read
      next => cases read
      next body =>
        cases read
        obtain ⟨q, rfl⟩ : ∃ q : Quote, c = q.char := by
          rcases quoted with rfl | rfl
          · exact ⟨.double, rfl⟩
          · exact ⟨.single, rfl⟩
        have escape : '\\' ≠ q.char := by cases q <;> decide
        refine .quote q fun raw text after written => ?_
        rintro rfl
        cases body.symm.trans (written.stringBody escape after)
    split at read
    next digit =>
      obtain ⟨n, front, _, _, read⟩ := lexeme_digit digit rest
      cases read.symm.trans h
    split at read
    next => cases read
    next =>
      cases read
      refine .character solid fun more kind text => ?_
      obtain ⟨d, tail, same, spells⟩ := text.spells
      obtain ⟨rfl, rfl⟩ := List.cons.inj same
      cases (lexeme_unexpected h _).symm.trans (spells.apart [] .nil)
  all_goals repeat' split at read
  all_goals cases read

/-- Where no token begins nothing is read, and the fault is the one that is found. -/
theorem Stuck.lexeme {c : Char} {rest : List Char} {fault : Fault} (h : Stuck (c :: rest) fault) :
    Text.isBlank c = false ∧ lexeme c rest = .error fault := by
  cases h with
  | ampersand lone =>
    refine ⟨by decide, ?_⟩
    simp only [Expr.lexeme]
    split
    next => exact absurd rfl lone
    next => rfl
  | bar lone =>
    refine ⟨by decide, ?_⟩
    simp only [Expr.lexeme]
    split
    next => exact absurd rfl lone
    next => rfl
  | quote q unclosed =>
    refine ⟨by cases q <;> decide, ?_⟩
    rw [lexeme_quote]
    split
    next body =>
      obtain ⟨raw, after, written, same, _⟩ := quoting_of_stringBody body
      exact absurd same (unclosed raw _ after written)
    next => rfl
  | character solid begins =>
    refine ⟨solid, ?_⟩
    cases read : Expr.lexeme c rest with
    | ok lex =>
      obtain ⟨front, _, _, _, text⟩ := denotes_of_lexeme read
      exact absurd text (begins front _)
    | error fault =>
      cases stuck_of_lexeme solid read with
      | ampersand => exact absurd (denotes_symbol (by decide)) (begins ['&'] .and)
      | bar => exact absurd (denotes_symbol (by decide)) (begins ['|'] .or)
      | quote q => exact absurd (.string q .nil) (begins [q.char] _)
      | character => rfl

end Automation.Expr
