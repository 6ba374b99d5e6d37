import Automation.Expr.Eval
import Automation.Graph.Workflow

/-!
# The way out of a decision

The edges that leave a decision are tried in order. The first one whose guard holds is taken at
once. An edge without a guard is a candidate for the default; a later one replaces an earlier one.
A guard that cannot be read or evaluated does not hold.
-/

namespace Automation

namespace Edge

variable [Regex.Library]

/-- Whether a guard holds in a context. -/
def guardHolds (context : Fields) (guard : String) : Bool :=
  match Expr.evaluateCondition guard context with
  | .ok holds => holds
  | .error _ => false

/-- Tries items that stand for edges, with the default found so far. -/
def chooseBy (edge : α → Edge) (context : Fields) (default : Option α) : List α → Option α
  | [] => default
  | a :: rest =>
    match (edge a).guard? with
    | none => chooseBy edge context (some a) rest
    | some guard =>
      if guardHolds context guard then some a else chooseBy edge context default rest

/-- The edge that a decision takes. -/
def choose? (edges : List Edge) (context : Fields) : Option Edge :=
  chooseBy (fun e => e) context none edges

end Edge

end Automation
