import Automation.Proofs.Expr.Script

/-!
# The variables that are mentioned

`mentions` lists what an expression or a script reads from its variables or stores below them. A
variable is mentioned by its name, which is then an identifier of the source, or by the key of a
field without a value, which may be a quoted text as well (`parseProgram_mentions`).
-/

namespace Automation.Expr

/-- A variable that is mentioned, and whether it is by the key of a field without a value. -/
structure Mention where
  name : String
  short : Bool
  deriving DecidableEq

/-! ## Mentions -/

mutual

/-- The variables that an expression mentions. -/
def Term.mentions : Term → List Mention
  | .literal _ => []
  | .ident x => [⟨x, false⟩]
  | .unary _ e => e.mentions
  | .binary l _ r => l.mentions ++ r.mentions
  | .member e _ => e.mentions
  | .index e i => e.mentions ++ i.mentions
  | .call _ args => Term.mentionsOfItems args
  | .array items => Term.mentionsOfItems items
  | .object fields => Term.mentionsOfFields fields

/-- The variables that items mention. -/
def Term.mentionsOfItems : List Term → List Mention
  | [] => []
  | e :: rest => e.mentions ++ Term.mentionsOfItems rest

/-- The variables that fields mention. -/
def Term.mentionsOfFields : List (String × Term) → List Mention
  | [] => []
  | (k, e) :: rest =>
    (if e.isVariable k then [⟨k, true⟩] else e.mentions) ++ Term.mentionsOfFields rest

end

/-- The variables that a step of a path mentions. -/
def PathSegment.mentions : PathSegment → List Mention
  | .field _ => []
  | .index key => key.mentions

mutual

/-- The variables that a statement mentions. A variable that is declared is not mentioned yet. -/
def Stmt.mentions : Stmt → List Mention
  | .declare _ value => value.mentions
  | .assign x path value => ⟨x, false⟩ :: (path.flatMap PathSegment.mentions ++ value.mentions)
  | .branch branches otherwise => Stmt.mentionsOfBranches branches ++ Stmt.mentionsOfLast otherwise
  | .loop _ items body => items.mentions ++ Stmt.mentionsOfBlock body
  | .ret none => []
  | .ret (some value) => value.mentions
  | .throw value => value.mentions
  | .expr value => value.mentions

/-- The variables that statements mention. -/
def Stmt.mentionsOfBlock : List Stmt → List Mention
  | [] => []
  | s :: rest => s.mentions ++ Stmt.mentionsOfBlock rest

/-- The variables that branches mention. -/
def Stmt.mentionsOfBranches : List (Term × List Stmt) → List Mention
  | [] => []
  | (condition, body) :: rest =>
    condition.mentions ++ Stmt.mentionsOfBlock body ++ Stmt.mentionsOfBranches rest

/-- The variables that the last block of a conditional statement mentions. -/
def Stmt.mentionsOfLast : Option (List Stmt) → List Mention
  | none => []
  | some body => Stmt.mentionsOfBlock body

end

theorem mem_mentionsOfItems {m : Mention} {items : List Term} :
    m ∈ Term.mentionsOfItems items ↔ ∃ e ∈ items, m ∈ e.mentions := by
  induction items with
  | nil => simp [Term.mentionsOfItems]
  | cons e rest ih => simp [Term.mentionsOfItems, ih]

theorem mem_mentionsOfFields {m : Mention} {fields : List (String × Term)} :
    m ∈ Term.mentionsOfFields fields ↔
      ∃ f ∈ fields, m ∈ if f.2.isVariable f.1 then [⟨f.1, true⟩] else f.2.mentions := by
  induction fields with
  | nil => simp [Term.mentionsOfFields]
  | cons f rest ih =>
    obtain ⟨k, e⟩ := f
    simp only [Term.mentionsOfFields, List.mem_append, ih, List.mem_cons, exists_eq_or_imp]

theorem mem_mentionsOfBlock {m : Mention} {ss : List Stmt} :
    m ∈ Stmt.mentionsOfBlock ss ↔ ∃ s ∈ ss, m ∈ s.mentions := by
  induction ss with
  | nil => simp [Stmt.mentionsOfBlock]
  | cons s rest ih => simp [Stmt.mentionsOfBlock, ih]

theorem mem_mentionsOfBranches {m : Mention} {branches : List (Term × List Stmt)} :
    m ∈ Stmt.mentionsOfBranches branches ↔
      ∃ b ∈ branches, m ∈ b.1.mentions ∨ m ∈ Stmt.mentionsOfBlock b.2 := by
  induction branches with
  | nil => simp [Stmt.mentionsOfBranches]
  | cons b rest ih =>
    obtain ⟨condition, body⟩ := b
    simp only [Stmt.mentionsOfBranches, List.mem_append, ih, List.mem_cons, exists_eq_or_imp]

/-! ## What is read mentions identifiers -/

/-- Whether the variables that are mentioned by their names are of identifiers that there are. -/
def Named (T : TokenKind → Prop) (mentions : List Mention) : Prop :=
  ∀ m ∈ mentions, m.short = false → T (.ident m.name)

section Reading

variable {T : TokenKind → Prop}

theorem Named.nil : Named T [] := by
  simp [Named]

theorem named_append {a b : List Mention} : Named T (a ++ b) ↔ Named T a ∧ Named T b :=
  List.forall_mem_append

theorem Named.singleton {x : String} (h : T (.ident x)) : Named T [⟨x, false⟩] := by
  simpa [Named] using h

theorem Named.items {items : List Term} (h : ∀ e ∈ items, Named T e.mentions) :
    Named T (Term.mentionsOfItems items) := by
  intro m mem
  obtain ⟨e, item, mem⟩ := mem_mentionsOfItems.mp mem
  exact h e item m mem

/-- A field without a value mentions a variable by its key, which need be no identifier. -/
theorem Named.fields {fields : List (String × Term)}
    (h : ∀ f ∈ fields, f.2 ≠ .ident f.1 → Named T f.2.mentions) :
    Named T (Term.mentionsOfFields fields) := by
  intro m mem
  obtain ⟨f, field, mem⟩ := mem_mentionsOfFields.mp mem
  split at mem
  next =>
    rw [List.mem_singleton.mp mem]
    rintro ⟨⟩
  next long => exact h f field (fun same => long (Term.isVariable_iff.mpr same)) m mem

/-- The variables that are mentioned in what a rule goes on with. -/
def Rule.mentions : Rule → List Mention
  | chain left => left.mentions
  | suffixes head => head.mentions
  | _ => []

/-- **What a rule answers mentions identifiers**, if what it goes on with does. -/
theorem Builds.named {rule : Rule} {d : Nat} {e : Term} (h : Builds T rule d e) :
    Named T rule.mentions → Named T e.mentions := by
  induction h with
  | expression _ _ ihl ih => exact fun nothing => ih (ihl nothing)
  | chainEnd => exact id
  | chain _ _ ihr ih => exact fun left => ih (named_append.mpr ⟨left, ihr .nil⟩)
  | unary _ ih => exact ih
  | operand _ _ ihh ih => exact fun nothing => ih (ihh nothing)
  | suffixesEnd => exact id
  | method _ _ _ iha ih =>
    exact fun head => ih (named_append.mpr ⟨head, .items fun a mem => iha a mem .nil⟩)
  | member _ _ ih => exact ih
  | position _ _ ih => exact fun head => ih (named_append.mpr ⟨head, .nil⟩)
  | index _ _ ihi ih => exact fun head => ih (named_append.mpr ⟨head, ihi .nil⟩)
  | call _ _ iha ih => exact fun _ => ih (.items fun a mem => iha a mem .nil)
  | number | string | bool | null => exact id
  | ident d name => exact fun _ => .singleton name
  | between _ ih => exact ih
  | array _ ih => exact fun _ => .items fun a mem => ih a mem .nil
  | object _ ih => exact fun _ => .fields fun f mem long => ih f mem long .nil

/-- What is assigned to mentions what the expression before the sign does. -/
theorem mentions_of_assignTarget? {e : Term} {x : String} {path : List PathSegment}
    (h : assignTarget? e = some (x, path)) :
    ⟨x, false⟩ ∈ e.mentions ∧ ∀ m ∈ path.flatMap PathSegment.mentions, m ∈ e.mentions := by
  induction e using assignTarget?.induct generalizing x path with
  | case1 x' =>
    cases h
    simp [Term.mentions]
  | case2 e property ih =>
    rw [assignTarget?, Option.map_eq_some_iff] at h
    obtain ⟨⟨x, front⟩, target, same⟩ := h
    cases same
    simpa [Term.mentions, PathSegment.mentions] using ih target
  | case3 e i ih =>
    rw [assignTarget?, Option.map_eq_some_iff] at h
    obtain ⟨⟨x, front⟩, target, same⟩ := h
    cases same
    obtain ⟨name, steps⟩ := ih target
    refine ⟨List.mem_append_left _ name, fun m mem => ?_⟩
    rw [List.flatMap_append, List.flatMap_singleton, List.mem_append] at mem
    exact List.mem_append.mpr (mem.imp_left (steps m))
  | case4 e ident member index =>
    rw [assignTarget?] at h
    · cases h
    · exact ident
    · exact member
    · exact index

theorem Named.block {ss : List Stmt} (h : ∀ s ∈ ss, Named T s.mentions) :
    Named T (Stmt.mentionsOfBlock ss) := by
  intro m mem
  obtain ⟨s, statement, mem⟩ := mem_mentionsOfBlock.mp mem
  exact h s statement m mem

/-- A statement that is read mentions identifiers, as its expressions and its blocks do. -/
theorem composed_named :
    Composed T (fun e => Named T e.mentions) (fun s => Named T s.mentions) where
  null := .nil
  declare _ value := value
  assign := by
    intro target x path e whole found value
    obtain ⟨name, steps⟩ := mentions_of_assignTarget? found
    refine List.forall_mem_cons.mpr ⟨whole _ name, named_append.mpr ⟨?_, value⟩⟩
    exact fun m mem => whole m (steps m mem)
  branch := by
    intro branches last _ conditions bodies otherwise
    refine named_append.mpr ⟨fun m mem => ?_, ?_⟩
    · obtain ⟨b, branch, mem⟩ := mem_mentionsOfBranches.mp mem
      exact mem.elim (conditions b branch m) (Named.block (bodies b branch) m)
    · cases last with
      | none => exact .nil
      | some body => exact .block (otherwise body rfl)
  loop _ items body := named_append.mpr ⟨items, .block body⟩
  ret := by
    intro value h
    cases value with
    | none => exact .nil
    | some e => exact h e rfl
  throw value := value
  expr value := value

end Reading

/-! ## Sources -/

/-- The name of an identifier. -/
def TokenKind.identifier? : TokenKind → Option String
  | ident x => some x
  | _ => none

/-- The identifiers of a source, as far as it has tokens. -/
def identifiers (source : String) : List String :=
  match tokenize source with
  | .ok ts => ts.filterMap fun t => t.kind.identifier?
  | .error _ => []

/-- The tokens of a source that are identifiers. -/
theorem identifiers_ofKinds {source : String} {ts : List Token} (h : tokenize source = .ok ts) :
    OfKinds (fun kind => ∀ x, kind = .ident x → x ∈ identifiers source) ts := by
  rintro t mem x ident
  rw [identifiers, h]
  exact List.mem_filterMap.mpr ⟨t, mem, by rw [ident]; rfl⟩

/-- **A variable that an expression mentions by its name is an identifier of the source.** -/
theorem parseExpression_mentions {source : String} {limit : Nat} {e : Term}
    (h : parseExpression source limit = .ok e) {m : Mention} (mem : m ∈ e.mentions)
    (long : m.short = false) : m.name ∈ identifiers source :=
  (parseExpression_builds (fun _ => identifiers_ofKinds) h).named .nil m mem long _ rfl

/-- **A variable that a script mentions by its name is an identifier of the source.** -/
theorem parseProgram_mentions {source : String} {limit : Nat} {program : Program}
    (h : parseProgram source limit = .ok program) {m : Mention}
    (mem : m ∈ Stmt.mentionsOfBlock program) (long : m.short = false) :
    m.name ∈ identifiers source :=
  Named.block (parseProgram_composed composed_named (fun _ => identifiers_ofKinds)
    (fun _ _ _ built => built.named .nil) h) m mem long _ rfl

end Automation.Expr
