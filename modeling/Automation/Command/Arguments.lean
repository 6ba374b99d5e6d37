/-!
# Arguments

The arguments of a command are options and words. An option has a long name behind two dashes and
perhaps a letter behind one. Its value, if it takes one, follows an equals sign, the letter, or in
the next argument, which must not look like an option. Behind a lone pair of dashes there are only
words. An option is given once.
-/

namespace Automation.Command

/-- An option. -/
structure Switch where
  name : String
  letter : Option Char
  takesValue : Bool
  /-- Whether its value may be empty. -/
  mayBeEmpty : Bool
  deriving Repr, DecidableEq

/-- The arguments that a command takes. -/
structure Grammar where
  switches : List Switch
  /-- How many words there may be at most. -/
  maxWords : Nat
  /-- Whether the first word is a command that takes all arguments behind it. -/
  hasCommands : Bool
  /-- An option that makes the arguments behind it irrelevant. -/
  last : Option String

/-- The arguments that were read. -/
structure Reading where
  options : List (String × String)
  words : List String
  /-- The option whose value is the next argument. -/
  pending : Option Switch
  onlyWords : Bool

namespace Reading

/-- No arguments. -/
def start : Reading := ⟨[], [], none, false⟩

/-- Whether an option is given. -/
def has (name : String) (r : Reading) : Bool :=
  r.options.any fun o => o.1 == name

/-- The value of an option. -/
def get? (name : String) (r : Reading) : Option String :=
  r.options.lookup name

/-- Takes an option with its value. -/
def addOption (s : Switch) (value : String) (r : Reading) : Option Reading :=
  if r.has s.name ∨ (s.takesValue = true ∧ s.mayBeEmpty = false ∧ value = "") then none
  else some { r with options := r.options ++ [(s.name, value)], pending := none }

/-- Takes a word. -/
def addWord (g : Grammar) (w : String) (r : Reading) : Option Reading :=
  if g.hasCommands then some { r with words := r.words ++ [w], onlyWords := true }
  else if r.words.length < g.maxWords ∧ w ≠ "" then some { r with words := r.words ++ [w] }
  else none

/-- Takes an option by its name, with the value behind an equals sign if there is one. -/
def addNamed (g : Grammar) (text : List Char) (r : Reading) : Option Reading :=
  let name := String.ofList (text.takeWhile fun c => c ≠ '=')
  let value := (text.dropWhile fun c => c ≠ '=').tail?
  match g.switches.find? fun s => s.name = name with
  | none => none
  | some s =>
    match s.takesValue, value with
    | true, some v => r.addOption s (String.ofList v)
    | true, none => if r.has s.name then none else some { r with pending := some s }
    | false, some _ => none
    | false, none => r.addOption s ""

/-- Takes options by their letters. What follows the letter of an option with a value is the value,
with or without an equals sign before it. -/
def addLetters (g : Grammar) : List Char → Reading → Option Reading
  | [], r => some r
  | c :: rest, r =>
    match g.switches.find? fun s => s.letter = some c with
    | none => none
    | some s =>
      if s.takesValue then
        match rest with
        | [] => if r.has s.name then none else some { r with pending := some s }
        | '=' :: value => r.addOption s (String.ofList value)
        | value => r.addOption s (String.ofList value)
      else (r.addOption s "").bind (addLetters g rest)

/-- Takes an argument. -/
def add (g : Grammar) (r : Reading) (argument : String) : Option Reading :=
  if g.last.any fun name => r.has name then some r
  else if r.onlyWords then r.addWord g argument
  else
    match r.pending, argument.toList with
    | some _, '-' :: _ :: _ => none
    | some s, _ => r.addOption s argument
    | none, ['-', '-'] => if g.hasCommands then none else some { r with onlyWords := true }
    | none, '-' :: '-' :: name => r.addNamed g name
    | none, '-' :: c :: letters => r.addLetters g (c :: letters)
    | none, _ => r.addWord g argument

/-- Reads arguments. -/
def ofArguments (g : Grammar) (arguments : List String) : Option Reading :=
  (arguments.foldlM (add g) start).filter fun r => r.pending.isNone

end Reading

end Automation.Command
