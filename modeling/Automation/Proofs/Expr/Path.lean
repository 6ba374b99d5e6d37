import Automation.Proofs.Expr.Continued
import Automation.Proofs.Expr.Extended

/-!
# Written paths

A name with members, positions and indexes behind it, written without blanks, is read as one
expression (`path_read`). Each segment makes one member or index, except that a number behind a point
goes on over the next point if a digit follows: two positions in a row are read as one with a
fraction.
-/

namespace Automation.Expr

open Filter

/-! ## Segments -/

/-- What may stand between brackets: a source that is read as an expression, and that no comment at
its end keeps open. -/
structure Key where
  chars : List Char
  expr : Term
  read : ∃ limit, parseExpression (String.ofList chars) limit = .ok expr
  closed : ¬EndsInBlock chars ∧ ¬EndsInLine chars

/-- A segment of a path. -/
inductive Segment where
  | member (x : Identifier)
  | position (d : DigitRun)
  | index (key : Key)

/-- The number that the digits write. -/
def DigitRun.numeral (d : DigitRun) : Numeral := ⟨d, none, none⟩

/-- The number with one run of digits before the point and one behind it. -/
def DigitRun.withFraction (d f : DigitRun) : Numeral := ⟨d, some f, none⟩

namespace Segment

/-- The characters of the segment. -/
def chars : Segment → List Char
  | member x => '.' :: x.1.toList
  | position d => '.' :: d.chars
  | index key => '[' :: (key.chars ++ [']'])

/-- What the segment makes of an expression. -/
def expr (e : Term) : Segment → Term
  | member x => .member e x.1
  | position d => .index e (.literal (Value.ofFloat d.numeral.value))
  | index key => .index e key.expr

/-- A position stands right behind another one. -/
def Doubles : Segment → Segment → Prop
  | position _, position _ => True
  | _, _ => False

end Segment

/-- The text of a path. -/
def pathText (x : Identifier) (segments : List Segment) : String :=
  String.ofList (x.1.toList ++ segments.flatMap Segment.chars)

/-- What segments are read as. A position right behind another one is its fraction. -/
def followed (e : Term) : List Segment → Term
  | [] => e
  | .position d :: .position f :: rest =>
    followed (.index e (.literal (Value.ofFloat (d.withFraction f).value))) rest
  | s :: rest => followed (s.expr e) rest

/-- The members and indexes that are taken of the head of an expression. -/
def Term.links : Term → Nat
  | member e _ => e.links + 1
  | index e _ => e.links + 1
  | _ => 0

/-! ## Where segments are one by one -/

theorem Segment.links_expr (e : Term) (s : Segment) : (s.expr e).links = e.links + 1 := by
  cases s <;> rfl

/-- The segments one by one have as many members and indexes. -/
theorem links_foldl (e : Term) (segments : List Segment) :
    (segments.foldl Segment.expr e).links = e.links + segments.length := by
  induction segments generalizing e with
  | nil => rfl
  | cons s rest ih =>
    rw [List.foldl_cons, ih, s.links_expr, List.length_cons]
    omega

theorem links_followed (e : Term) (segments : List Segment) :
    (followed e segments).links ≤ e.links + segments.length := by
  fun_induction followed e segments with
  | case1 e => exact Nat.le_refl _
  | case2 e d f rest ih =>
    have one : ∀ i, (Term.index e i).links = e.links + 1 := fun _ => rfl
    rw [one] at ih
    simp only [List.length_cons]
    omega
  | case3 e s rest _ ih =>
    rw [s.links_expr] at ih
    rw [List.length_cons]
    omega

/-- **Segments are read one by one exactly where no position is right behind another one.** -/
theorem followed_eq_foldl_iff (e : Term) (segments : List Segment) :
    followed e segments = segments.foldl Segment.expr e ↔
      segments.IsChain fun s t => ¬s.Doubles t := by
  fun_induction followed e segments with
  | case1 e => simp
  | case2 e d f rest ih =>
    refine iff_of_false (fun same => ?_) (fun alone => ?_)
    · -- Two positions make one index, and no later segment makes up for it.
      have fewer := links_followed
        (.index e (.literal (Value.ofFloat (d.withFraction f).value))) rest
      rw [same, links_foldl] at fewer
      have one : ∀ i, (Term.index e i).links = e.links + 1 := fun _ => rfl
      rw [one] at fewer
      simp only [List.length_cons] at fewer
      omega
    · exact (List.isChain_cons_cons.mp alone).1 trivial
  | case3 e s rest single ih =>
    rw [List.foldl_cons, ih]
    cases rest with
    | nil => simp
    | cons t rest =>
      have plain : ¬s.Doubles t := by
        cases s <;> cases t <;> first | exact id | exact fun _ => single _ _ rest rfl rfl
      rw [List.isChain_cons_cons]
      exact (and_iff_right plain).symm

/-! ## Tokens -/

/-- What a segment begins with, or nothing. -/
def Onward (cs : List Char) : Prop :=
  ∀ c ∈ cs.head?, c = '.' ∨ c = '['

theorem onward_segments (segments : List Segment) : Onward (segments.flatMap Segment.chars) := by
  intro c hc
  cases segments with
  | nil => cases hc
  | cons s rest =>
    cases s with
    | member | position =>
      cases hc
      exact .inl rfl
    | index =>
      cases hc
      exact .inr rfl

/-- Neither a name nor a number goes on there. -/
theorem Onward.stops {cs : List Char} (h : Onward cs) : ∀ c ∈ cs.head?,
    isIdentPart c = false ∧ c.isDigit = false ∧ c ≠ 'e' ∧ c ≠ 'E' := by
  intro c hc
  rcases h c hc with rfl | rfl <;> decide

/-- A name begins with what an identifier begins with, and goes on with parts of one. -/
theorem Identifier.exists_cons (x : Identifier) : ∃ c part, x.1.toList = c :: part ∧
    isIdentStart c = true ∧ ∀ c ∈ part, isIdentPart c = true := by
  obtain ⟨name, identifier⟩ := x
  have word : isWord name = true := (Bool.and_eq_true_iff.mp identifier).1
  unfold isWord at word
  split at word
  next => cases word
  next c part chars =>
    simp only [Bool.and_eq_true, List.all_eq_true] at word
    exact ⟨c, part, chars, word⟩

section Words

variable {after : List Char} (pos : Nat)

theorem scan_name (x : Identifier) (onward : Onward after) :
    scan pos (x.1.toList ++ after) =
      (scan (pos + byteSize x.1.toList) after).map (⟨.ident x.1, pos⟩ :: ·) := by
  obtain ⟨c, part, chars, start, parts⟩ := x.exists_cons
  have same : String.ofList (c :: part) = x.1 := by rw [← chars, String.ofList_toList]
  have free : x.1 ∉ reservedWords := by
    have known := (Bool.and_eq_true_iff.mp x.2).2
    simpa using known
  have slash : c ≠ '/' := by
    rintro rfl
    exact absurd start (by decide)
  have solid := isBlank_of_isIdentPart (isIdentPart_of_isIdentStart start)
  have read : lexeme c (part ++ after) = .ok ⟨.ident x.1, part.length⟩ := by
    rw [lexeme_letter start, (span_append parts fun c hc => (onward.stops c hc).1).1, same,
      TokenKind.ofWord_eq_ident free]
  rw [chars, List.cons_append]
  exact scan_token (triviaLength_solid solid slash _) read pos

/-- A number without an exponent ends where a path goes on, if no fraction begins there that it does
not have yet. -/
theorem scan_numeral (n : Numeral) (plain : n.exponent = none) (onward : Onward after)
    (point : n.fraction = none → fractionLength after = 0) :
    scan pos (n.chars ++ after) =
      (scan (pos + byteSize n.chars) after).map (⟨.number n.value, pos⟩ :: ·) := by
  have stop : leadingDigits after = [] := leadingDigits_stop fun c hc => (onward.stops c hc).2.1
  have noExponent : exponentLength after = 0 :=
    exponentLength_eq_zero fun c hc => (onward.stops c hc).2.2
  have length : numberLength (n.chars ++ after) = n.chars.length := by
    obtain ⟨whole, fraction, exponent⟩ := n
    obtain rfl : exponent = none := plain
    cases fraction with
    | none =>
      simp only [Numeral.chars, Option.map_none, Option.getD_none, List.append_nil]
      rw [numberLength_append whole.digits fun c hc => (onward.stops c hc).2.1, point rfl,
        List.drop_zero, noExponent]
      rfl
    | some f =>
      simp only [Numeral.chars, Option.map_some, Option.map_none, Option.getD_some,
        Option.getD_none, List.append_nil, List.append_assoc, List.cons_append]
      rw [numberLength_append whole.digits (by simp), fractionLength_chars, stop, List.length_nil,
        Nat.add_zero, List.drop_succ_cons, List.drop_left, noExponent]
      simp
  obtain ⟨c, rest, chars, digit⟩ := n.exists_cons
  obtain ⟨m, front, longest, cons, read⟩ := lexeme_digit digit (rest ++ after)
  rw [← List.cons_append, ← chars, length, List.take_left] at longest
  obtain rfl : front = rest := (List.cons.inj (cons.symm.trans (longest.trans chars))).2
  have value : m.value = n.value := by
    have number := read?_chars m
    rw [longest, read?_chars n] at number
    exact (Option.some.inj number).symm
  have slash : c ≠ '/' := by
    rintro rfl
    cases digit
  have solid := isBlank_of_isIdentPart (isIdent_of_isDigit digit).1
  rw [chars, List.cons_append]
  exact scan_token (triviaLength_solid solid slash _) (value ▸ read) pos

end Words

/-! ## Suffixes -/

theorem tokens_of_parseExpression {source : String} {limit : Nat} {e : Term}
    (read : parseExpression source limit = .ok e) :
    ∃ ts rest, scan 0 source.toList = .ok ts ∧ expression limit 1 ts = .ok (e, rest) ∧
      (peek rest).kind = .eof := by
  unfold parseExpression at read
  split at read
  next => cases read
  next ts tokens =>
    unfold parseTokens at read
    split at read
    next => cases read
    next e' rest first =>
      split at read
      next last =>
        cases read
        exact ⟨ts, rest, tokens, first, last⟩
      next => cases read

/-- **What stands between brackets is read as it is alone.** -/
theorem Key.scan (key : Key) {pos : Nat} {cs : List Char} {ts : List Token}
    (behind : scan (pos + byteSize key.chars + byteSize [']']) cs = .ok ts) :
    ∃ inner stop, scan pos (key.chars ++ ']' :: cs) = .ok inner ∧
      ∀ᶠ d in atTop, expression d 1 inner = .ok (key.expr, ⟨.rightBracket, stop⟩ :: ts) := by
  obtain ⟨limit, read⟩ := key.read
  obtain ⟨alone, rest, tokens, whole, last⟩ := tokens_of_parseExpression read
  rw [String.toList_ofList] at tokens
  obtain ⟨moved, read', same⟩ := scan_elsewhere tokens pos
  obtain ⟨front, rfl, goesOn⟩ :=
    scan_continued parting_rightBracket read' key.closed.1 (.inr key.closed.2)
  obtain ⟨front', stop', rfl, inside⟩ := scan_terminated tokens
  have between := goesOn cs
  rw [scan_mark (by decide) (by decide) rfl, behind] at between
  let tail : List Token := ⟨.rightBracket, pos + byteSize key.chars⟩ :: ts
  refine ⟨front ++ tail, pos + byteSize key.chars, between, eventually_atTop.mpr ⟨limit, ?_⟩⟩
  intro d le
  refine ((settling _).expression 1).stays ?_ le
  -- The bracket ends the expression as the end of the source does.
  have fronts : front.map Token.kind = front'.map Token.kind := by simpa using same
  have extends_ : Extends tail (front' ++ [⟨.eof, stop'⟩]) (front ++ tail) :=
    .of_kinds fronts inside
  have ends : Ends tail := ⟨rfl, rfl⟩
  obtain ⟨rest', read, left⟩ := ((extending ends nofun limit).expression 1 extends_).of_ok whole
  cases left with
  | last stop => exact read
  | cons _ _ inside => exact absurd last inside

theorem suffixes_position {depth : Nat} {e : Term} {v : Float} {pos pos' : Nat} {ts : List Token}
    {r : Parse Term} (goesOn : suffixes depth (.index e (.literal (Value.ofFloat v))) ts = r) :
    suffixes (depth + 1) e (⟨.dot, pos⟩ :: ⟨.number v, pos'⟩ :: ts) = r := by
  rw [suffixes.eq_def]
  exact goesOn

/-- A source is read to its end as suffixes of an expression, with enough levels of nesting, and what
they make of it is the whole. It begins with no call. -/
def ReadsOn (e : Term) (cs : List Char) (whole : Term) : Prop :=
  ∀ pos, ∃ ts stop, scan pos cs = .ok ts ∧ (peek ts).kind ≠ .leftParen ∧
    ∀ᶠ d in atTop, suffixes d e ts = .ok (whole, [⟨.eof, stop⟩])

namespace ReadsOn

variable {e whole : Term} {cs : List Char}

theorem nil (e : Term) : ReadsOn e [] e := fun pos =>
  ⟨_, pos, scan_nil pos, nofun, .of_forall fun _ => suffixes_stop rfl⟩

theorem member {x : Identifier} (h : ReadsOn (.member e x.1) cs whole) (onward : Onward cs) :
    ReadsOn e ('.' :: (x.1.toList ++ cs)) whole := by
  intro pos
  obtain ⟨ts, stop, tokens, plain, goesOn⟩ := h (pos + byteSize ['.'] + byteSize x.1.toList)
  refine ⟨⟨.dot, pos⟩ :: ⟨.ident x.1, pos + byteSize ['.']⟩ :: ts, stop, ?_, nofun, ?_⟩
  · rw [scan_mark (by decide) (by decide) rfl, scan_name _ x onward, tokens]
    rfl
  · refine eventually_succ ?_
    filter_upwards [goesOn] with d read
    exact suffixes_member plain read

theorem position {n : Numeral} (h : ReadsOn (.index e (.literal (Value.ofFloat n.value))) cs whole)
    (onward : Onward cs) (plain : n.exponent = none)
    (point : n.fraction = none → fractionLength cs = 0) :
    ReadsOn e ('.' :: (n.chars ++ cs)) whole := by
  intro pos
  obtain ⟨ts, stop, tokens, -, goesOn⟩ := h (pos + byteSize ['.'] + byteSize n.chars)
  refine ⟨⟨.dot, pos⟩ :: ⟨.number n.value, pos + byteSize ['.']⟩ :: ts, stop, ?_, nofun, ?_⟩
  · rw [scan_mark (by decide) (by decide) rfl, scan_numeral _ n plain onward point, tokens]
    rfl
  · refine eventually_succ ?_
    filter_upwards [goesOn] with d read
    exact suffixes_position read

theorem index {key : Key} (h : ReadsOn (.index e key.expr) cs whole) :
    ReadsOn e ('[' :: (key.chars ++ ']' :: cs)) whole := by
  intro pos
  obtain ⟨ts, stop, tokens, -, goesOn⟩ :=
    h (pos + byteSize ['['] + byteSize key.chars + byteSize [']'])
  obtain ⟨inner, stop', between, between'⟩ := key.scan tokens
  refine ⟨⟨.leftBracket, pos⟩ :: inner, stop, ?_, nofun, ?_⟩
  · rw [scan_mark (by decide) (by decide) rfl, between]
    rfl
  · refine eventually_succ ?_
    filter_upwards [between', goesOn] with d inside read
    exact suffixes_index inside read

end ReadsOn

/-- No fraction begins with a segment that is no position. -/
theorem fractionLength_segments {segments : List Segment}
    (other : ∀ f rest, segments ≠ .position f :: rest) :
    fractionLength (segments.flatMap Segment.chars) = 0 := by
  cases segments with
  | nil => rfl
  | cons s rest =>
    cases s with
    | position f => exact absurd rfl (other f rest)
    | index key => rfl
    | member x =>
      obtain ⟨c, part, chars, start⟩ := x.exists_cons
      have digit : c.isDigit = false := by
        cases digit : c.isDigit with
        | false => rfl
        | true => exact absurd start (by simp [(isIdent_of_isDigit digit).2])
      simp [Segment.chars, fractionLength, chars, leadingDigits, digit]

/-- **Segments are read** as what they make of the expression before them. -/
theorem readsOn_segments (e : Term) (segments : List Segment) :
    ReadsOn e (segments.flatMap Segment.chars) (followed e segments) := by
  fun_induction followed e segments with
  | case1 e => exact .nil e
  | case2 e d f rest ih =>
    have whole := ih.position (onward_segments rest) rfl nofun
    simpa [DigitRun.withFraction, Numeral.chars, Segment.chars] using whole
  | case3 e s rest single ih =>
    cases s with
    | member x => exact ih.member (onward_segments rest)
    | index key =>
      have whole := ih.index
      simpa [Segment.chars] using whole
    | position d =>
      have point : d.numeral.fraction = none → fractionLength (rest.flatMap Segment.chars) = 0 :=
        fun _ => fractionLength_segments fun f rest same => single d f rest rfl same
      have whole := ih.position (onward_segments rest) rfl point
      simpa [DigitRun.numeral, Numeral.chars, Segment.chars] using whole

/-! ## Paths -/

/-- The text of a path is read as what its segments make of its name. -/
theorem parseExpression_path (x : Identifier) (segments : List Segment) :
    ∀ᶠ limit in atTop,
      parseExpression (pathText x segments) limit = .ok (followed (.ident x.1) segments) := by
  have onward := onward_segments segments
  obtain ⟨ts, stop, tokens, plain, suffixes⟩ :=
    readsOn_segments (.ident x.1) segments (0 + byteSize x.1.toList)
  have whole : tokenize (pathText x segments) = .ok (⟨.ident x.1, 0⟩ :: ts) := by
    rw [tokenize, pathText, String.toList_ofList, scan_name 0 x onward, tokens]
    rfl
  have ends : Ends [(⟨.eof, stop⟩ : Token)] := ⟨rfl, rfl⟩
  refine eventually_succ ?_
  filter_upwards [suffixes] with d read
  have operand : operand d (⟨.ident x.1, 0⟩ :: ts) = _ := operand_of_primary rfl rfl read
  simp only [parseExpression, whole, parseTokens, expression_of operand (ends.chain d 1 _)]
  rfl

/-- Without a slash there is no comment at the end. -/
theorem closed_of_noSlash {cs : List Char} (h : '/' ∉ cs) : ¬EndsInBlock cs ∧ ¬EndsInLine cs := by
  constructor <;>
  · intro ends
    obtain ⟨last, ⟨body, rfl, -⟩, suffix⟩ := EndsWith.suffix ends
    exact h (suffix.subset List.mem_cons_self)

/-- Digits between brackets. -/
def Key.ofDigits (d : DigitRun) : Key where
  chars := d.chars
  expr := .literal (Value.ofFloat d.numeral.value)
  read := by
    have text : (Phrase.number d.numeral).write = String.ofList d.chars := by
      simp [Phrase.write, Phrase.words, joined, Word.chars, DigitRun.numeral, Numeral.chars]
    exact text ▸ (parseExpression_phrase (.number d.numeral)).exists
  closed := closed_of_noSlash fun slash => absurd (d.digits '/' slash) (by decide)

/-- The segment with brackets in place of a point before digits. -/
def Segment.bracketed : Segment → Segment
  | .position d => .index (.ofDigits d)
  | s => s

/-- Between brackets digits are read alone, whatever stands before them. -/
theorem followed_bracketed (e : Term) (segments : List Segment) :
    followed e (segments.map Segment.bracketed) = segments.foldl Segment.expr e := by
  have alone : (segments.map Segment.bracketed).IsChain fun s t => ¬s.Doubles t := by
    refine (List.pairwise_map.mpr (List.pairwise_of_forall fun s t => ?_)).isChain
    cases s <;> cases t <;> exact id
  rw [(followed_eq_foldl_iff e _).mpr alone, List.foldl_map]
  congr
  funext e s
  cases s <;> rfl

/-- **A path is read as one expression.** Its segments make one member or index each exactly where no
position stands right behind another one, and always with brackets around the positions. -/
theorem path_read (x : Identifier) (segments : List Segment) :
    (∃ enough, ∀ limit ≥ enough,
      parseExpression (pathText x segments) limit = .ok (followed (.ident x.1) segments)) ∧
    (followed (.ident x.1) segments = segments.foldl Segment.expr (.ident x.1) ↔
      segments.IsChain fun s t => ¬s.Doubles t) ∧
    ∃ enough, ∀ limit ≥ enough,
      parseExpression (pathText x (segments.map Segment.bracketed)) limit =
        .ok (segments.foldl Segment.expr (.ident x.1)) := by
  refine ⟨eventually_atTop.mp (parseExpression_path x segments),
    followed_eq_foldl_iff (.ident x.1) segments, eventually_atTop.mp ?_⟩
  filter_upwards [parseExpression_path x (segments.map Segment.bracketed)] with limit read
  rw [read, followed_bracketed]

/-- The segments of `a.0.1` do not make one index each, small as their numbers are: below `2 ^ 53`. -/
theorem not_path_read_one_by_one :
    ¬∀ (x : Identifier) (segments : List Segment), segments ≠ [] →
      (∀ d, .position d ∈ segments → Decimal.digitsToNat d.chars < 9007199254740992) →
      ∃ enough, ∀ limit ≥ enough, parseExpression (pathText x segments) limit =
        .ok (segments.foldl Segment.expr (.ident x.1)) := by
  intro all
  let x : Identifier := ⟨"a", by decide⟩
  let segments : List Segment :=
    [.position (.leading ['0'] (by decide)), .position (.leading ['1'] (by decide))]
  have small : ∀ d, .position d ∈ segments → Decimal.digitsToNat d.chars < 9007199254740992 := by
    intro d mem
    simp only [segments, List.mem_cons, Segment.position.injEq, List.not_mem_nil, or_false] at mem
    rcases mem with rfl | rfl <;> decide
  obtain ⟨enough, each⟩ := all x segments (List.cons_ne_nil _ _) small
  obtain ⟨limit, read, le⟩ :=
    ((parseExpression_path x segments).and (eventually_ge_atTop enough)).exists
  have same := Except.ok.inj (read.symm.trans (each limit le))
  cases congrArg Term.links same

end Automation.Expr
