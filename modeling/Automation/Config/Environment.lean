/-!
# References to the environment

A settings file may refer to variables of the environment as `${NAME}`. A reference runs to the
first closing brace, or to the end of the text if there is none. It is replaced by the value of the
variable, which is not searched again; a reference to a variable that is not set stays, with its
brace closed.
-/

namespace Automation.Environment

/-- The variables that are set, with their values. -/
abbrev Variables := List (String × String)

/-- What stands in the place of a reference. -/
def replacement (env : Variables) (name : List Char) : List Char :=
  match env.lookup (String.ofList name) with
  | some value => value.toList
  | none => ['$', '\x7b'] ++ name ++ ['\x7d']

/-- Replaces references. `open?` holds the name of the reference that is being read, if one is, with
its last character first. -/
def expandChars (env : Variables) : (open? : Option (List Char)) → List Char → List Char
  | none, [] => []
  | some name, [] => replacement env name.reverse
  | none, '$' :: '\x7b' :: rest => expandChars env (some []) rest
  | none, c :: rest => c :: expandChars env none rest
  | some name, c :: rest =>
    if c = '\x7d' then replacement env name.reverse ++ expandChars env none rest
    else expandChars env (some (c :: name)) rest

/-- The text with its references replaced. -/
def expand (env : Variables) (text : String) : String :=
  String.ofList (expandChars env none text.toList)

end Automation.Environment
