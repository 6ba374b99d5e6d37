import Automation.Config.Basic
import Automation.Config.Environment
import Automation.Execution.Error
import Automation.Toml.Library

/-!
# Settings files

Settings are read from a TOML file in which references to the environment are replaced first.
-/

namespace Automation

/-- What there is under a path. -/
inductive FileContent where
  | missing
  /-- Something that cannot be read as a text, such as a directory. -/
  | unreadable
  | text (content : String)
  deriving Repr, DecidableEq

namespace Config

variable [Toml.Library]

/-- The settings of a text, with variables of the environment. -/
def ofText? (env : Environment.Variables) (text : String) : Option Config :=
  (Toml.Library.read? (Environment.expand env text)).bind (decode? Value.asLooseName?)

/-- Loads the settings under a path. -/
def load (env : Environment.Variables) (path : String) (content : FileContent) :
    Except RunError Config :=
  match content with
  | .text t =>
    match ofText? env t with
    | some c => .ok c
    | none => .error (.config "the file does not hold valid settings")
  | _ => .error (.configNotFound path)

/-- Loads the settings under a path. If there is nothing, all settings are the default ones. -/
def loadOrDefault (env : Environment.Variables) (path : String) (content : FileContent) :
    Except RunError Config :=
  match content with
  | .missing => .ok default
  | content => load env path content

end Config

end Automation
