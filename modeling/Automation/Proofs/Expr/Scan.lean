import Automation.Proofs.Expr.Lexeme

/-!
# Scanning words

The scanner a step at a time: it passes over trivia, reads one token, and goes on behind it. So
words with blanks between them are read as the tokens that they spell, and as nothing else
(`tokenize_spaced`), whatever stands in their texts and however the word that follows would go on
with the one before it if no blank stood between them.
-/

namespace Automation.Expr

/-! ## Steps -/

@[simp] theorem byteSize_nil : byteSize [] = 0 := rfl

theorem byteSize_cons (c : Char) (cs : List Char) : byteSize (c :: cs) = c.utf8Size + byteSize cs :=
  rfl

theorem byteSize_append (cs ds : List Char) : byteSize (cs ++ ds) = byteSize cs + byteSize ds := by
  induction cs with
  | nil => simp
  | cons c cs ih => rw [List.cons_append, byteSize_cons, byteSize_cons, ih, Nat.add_assoc]

/-- The scanner, a step at a time. -/
theorem scan_eq (pos : Nat) (cs : List Char) :
    let start := pos + byteSize (cs.take (triviaLength cs))
    scan pos cs =
      match cs.drop (triviaLength cs) with
      | [] => .ok [⟨.eof, start⟩]
      | c :: rest =>
        match lexeme c rest with
        | .error fault => .error (.malformed start fault)
        | .ok lex =>
          match scan (start + c.utf8Size + byteSize (rest.take lex.extra)) (rest.drop lex.extra) with
          | .ok tokens => .ok (⟨lex.kind, start⟩ :: tokens)
          | .error e => .error e := by
  rw [scan]
  split
  next h => rw [h]
  next c rest h => exact h ▸ rfl

/-- Trivia is passed over. -/
theorem scan_trivia {gap rest : List Char}
    (h : triviaLength (gap ++ rest) = gap.length + triviaLength rest) (pos : Nat) :
    scan pos (gap ++ rest) = scan (pos + byteSize gap) rest := by
  rw [scan_eq, scan_eq (pos + byteSize gap), h]
  simp only [List.drop_length_add_append, List.take_length_add_append, byteSize_append,
    Nat.add_assoc]

/-- The end of a source is its last token. -/
theorem scan_nil (pos : Nat) : scan pos [] = .ok [⟨.eof, pos⟩] := by
  rw [scan_eq]
  rfl

/-- Behind a token the scanner goes on. -/
theorem scan_token {c : Char} {front after : List Char} {kind : TokenKind}
    (trivia : triviaLength (c :: (front ++ after)) = 0)
    (read : lexeme c (front ++ after) = .ok ⟨kind, front.length⟩) (pos : Nat) :
    scan pos (c :: (front ++ after)) =
      (scan (pos + byteSize (c :: front)) after).map (⟨kind, pos⟩ :: ·) := by
  rw [scan_eq, trivia]
  simp only [List.drop_zero, List.take_zero, read, List.take_left, List.drop_left, byteSize_nil,
    byteSize_cons, Nat.add_zero, Nat.add_assoc]
  cases scan (pos + (c.utf8Size + byteSize front)) after <;> rfl

/-- Only a slash opens a comment. -/
theorem triviaLength_solid {c : Char} (solid : Text.isBlank c = false) (slash : c ≠ '/')
    (rest : List Char) : triviaLength (c :: rest) = 0 := by
  refine triviaLength_eq_zero (by rintro d ⟨⟩; exact solid) ?_
  rintro (⟨more, same⟩ | ⟨more, same⟩) <;> exact slash (List.cons.inj same).1.symm

/-- A mark that nothing goes on with is a token. -/
theorem scan_mark {c : Char} {after : List Char} {kind : TokenKind}
    (solid : Text.isBlank c = false) (slash : c ≠ '/') (read : lexeme c after = .ok ⟨kind, 0⟩)
    (pos : Nat) :
    scan pos (c :: after) = (scan (pos + byteSize [c]) after).map (⟨kind, pos⟩ :: ·) := by
  have plain : triviaLength (c :: ([] ++ after)) = 0 := triviaLength_solid solid slash after
  exact scan_token plain read pos

/-- Where no token is read the scanner fails. -/
theorem scan_fault {c : Char} {rest : List Char} {fault : Fault}
    (trivia : triviaLength (c :: rest) = 0) (read : lexeme c rest = .error fault) (pos : Nat) :
    scan pos (c :: rest) = .error (.malformed pos fault) := by
  rw [scan_eq, trivia]
  simp only [List.drop_zero, List.take_zero, read, byteSize_nil, Nat.add_zero]

theorem triviaLength_blank {c : Char} (blank : Text.isBlank c = true) (cs : List Char) :
    triviaLength (c :: cs) = 1 + triviaLength cs := by
  have slash : c ≠ '/' := by
    rintro rfl
    exact absurd blank (by decide)
  rw [triviaLength.eq_def]
  split
  next h => exact absurd (List.cons.inj h).1 slash
  next h => exact absurd (List.cons.inj h).1 slash
  next h =>
    obtain ⟨rfl, rfl⟩ := List.cons.inj h
    rw [if_pos blank]
  next h => cases h

/-- A blank is passed over. -/
theorem scan_blank {c : Char} (blank : Text.isBlank c = true) (pos : Nat) (cs : List Char) :
    scan pos (c :: cs) = scan (pos + c.utf8Size) cs := by
  rw [← List.singleton_append]
  exact scan_trivia (triviaLength_blank blank cs) pos

/-- A text of a token that stands apart is the first token. -/
theorem Denotes.scan {text : List Char} {kind : TokenKind} (h : Denotes text kind) (pos : Nat)
    {after : List Char} (apart : Apart after) :
    scan pos (text ++ after) = (scan (pos + byteSize text) after).map (⟨kind, pos⟩ :: ·) := by
  obtain ⟨c, rest, rfl, spells⟩ := h.spells
  refine scan_token (triviaLength_eq_zero ?_ (not_opensComment spells.slash apart))
    (spells.apart after apart) pos
  rintro d ⟨⟩
  exact spells.solid

/-! ## Words with blanks between them -/

/-- Tokens that begin with some words; the rest follows. -/
inductive Spelled : List Word → List Token → List Token → Prop where
  | nil (rest) : Spelled [] rest rest
  | cons (w : Word) (pos : Nat) {ws ts rest} (h : Spelled ws ts rest) :
    Spelled (w :: ws) (⟨w.kind, pos⟩ :: ts) rest

/-- Some words in order, with blanks before, between and behind them, and at least one blank between
two words. -/
inductive Spaced : List Word → List Char → Prop where
  | nil : Spaced [] []
  | blank {c : Char} {ws : List Word} {cs : List Char} (blank : Text.isBlank c = true)
    (h : Spaced ws cs) : Spaced ws (c :: cs)
  | word (w : Word) {ws : List Word} {cs : List Char} (apart : Apart cs) (h : Spaced ws cs) :
    Spaced (w :: ws) (w.chars ++ cs)

theorem Spaced.before (w : Word) (c : Char) (blank : Text.isBlank c = true) {ws : List Word}
    {cs : List Char} (h : Spaced ws cs) : Spaced (w :: ws) (w.chars ++ c :: cs) :=
  .word w (.cons blank cs) (.blank blank h)

/-- Words with blanks between them are scanned word by word. -/
theorem Spaced.scan {ws : List Word} {cs : List Char} (h : Spaced ws cs) (pos : Nat) :
    ∃ ts stop, scan pos cs = .ok ts ∧ Spelled ws ts [⟨.eof, stop⟩] := by
  induction h generalizing pos with
  | nil => exact ⟨_, pos, scan_nil pos, .nil _⟩
  | @blank c _ _ blank _ ih =>
    obtain ⟨ts, stop, read, spelled⟩ := ih (pos + c.utf8Size)
    exact ⟨ts, stop, (scan_blank blank pos _).trans read, spelled⟩
  | word w apart _ ih =>
    obtain ⟨ts, stop, read, spelled⟩ := ih (pos + byteSize w.chars)
    refine ⟨_, stop, ?_, .cons w pos spelled⟩
    rw [w.denotes.scan pos apart, read]
    rfl

/-- The tokens of words are the tokens that the words spell. -/
theorem Spelled.kinds {ws : List Word} {ts rest : List Token} (h : Spelled ws ts rest) :
    ts.map Token.kind = ws.map Word.kind ++ rest.map Token.kind := by
  induction h with
  | nil => rfl
  | cons w pos _ ih => rw [List.map_cons, List.map_cons, List.cons_append, ih]

/-- **Words with blanks between them are read as the tokens that they spell**, and nothing else. -/
theorem tokenize_spaced {ws : List Word} {source : String} (h : Spaced ws source.toList) :
    (tokenize source).map (List.map Token.kind) = .ok (ws.map Word.kind ++ [.eof]) := by
  obtain ⟨ts, stop, read, spelled⟩ := h.scan 0
  rw [tokenize, read]
  exact congrArg Except.ok spelled.kinds

/-- Quotes, comments and line ends inside texts, a name that begins with a keyword, slashes that
open no comment, and a letter that is no exponent. -/
theorem tokenize_spaced_marks :
    let small : Numeral := ⟨.leading ['1'] (by decide), some (.leading ['5'] (by decide)),
      some ⟨false, .minus, .leading ['3'] (by decide)⟩⟩
    let dozen : Numeral := ⟨.leading ['1', '2'] (by decide), none, none⟩
    let words : List Word := [.string ⟨.single, "a '\\ /* \" */"⟩, .mark .eqEq "===" (by decide),
      .number small, .ident ⟨"letter", by decide⟩, .mark .slash "/" (by decide),
      .mark .slash "/" (by decide), .string ⟨.double, "//\n\""⟩, .number dozen,
      .ident ⟨"e", by decide⟩]
    let source := "'a \\'\\\\ /* \" */' === 1.5e-3\tletter\n/ / \"//\n\\\"\" 12 e "
    Spaced words source.toList ∧
      (tokenize source).map (List.map Token.kind) = .ok [.string "a '\\ /* \" */", .eqEq,
        .number small.value, .ident "letter", .slash, .slash, .string "//\n\"",
        .number dozen.value, .ident "e", .eof] := by
  intro small dozen words source
  have spaced : Spaced words _ :=
    .before _ ' ' (by decide) <| .before _ ' ' (by decide) <| .before _ '\t' (by decide) <|
    .before _ '\n' (by decide) <| .before _ ' ' (by decide) <| .before _ ' ' (by decide) <|
    .before _ ' ' (by decide) <| .before _ ' ' (by decide) <| .before _ ' ' (by decide) .nil
  have spaced : Spaced words source.toList := by
    refine Eq.mp (congrArg (Spaced words) ?_) spaced
    decide +kernel
  exact ⟨spaced, tokenize_spaced spaced⟩

/-- Words with spaces between them. -/
def joined (ws : List Word) : String :=
  String.ofList ([' '].intercalate (ws.map Word.chars))

/-- A space between two words is enough. -/
theorem spaced_joined (ws : List Word) : Spaced ws (joined ws).toList := by
  rw [joined, String.toList_ofList]
  induction ws with
  | nil => exact .nil
  | cons w rest ih =>
    cases rest with
    | nil =>
      have last := Spaced.word w .nil .nil
      rw [List.append_nil] at last
      rwa [List.map_singleton, List.intercalate_singleton]
    | cons v rest =>
      have blank : Text.isBlank ' ' = true := by decide
      rw [List.map_cons, List.map_cons, List.intercalate_cons_cons, List.append_assoc,
        List.singleton_append, ← List.map_cons]
      exact .word w (.cons blank _) (.blank blank ih)

theorem tokenize_joined (ws : List Word) :
    ∃ ts stop, tokenize (joined ws) = .ok ts ∧ Spelled ws ts [⟨.eof, stop⟩] :=
  (spaced_joined ws).scan 0

end Automation.Expr
