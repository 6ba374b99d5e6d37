import Automation.Execution.Recording
import Automation.Main
import Automation.Proofs.Browser.Attending
import Automation.Proofs.Engine.Waiting
import Automation.Proofs.Expr.Limit
import Automation.Proofs.Expr.Modes
import Automation.Proofs.Expr.Nesting
import Automation.Proofs.Expr.Sentence
import Automation.Proofs.Script.Budget
import Automation.Proofs.Script.Names
import Automation.Proofs.Walk.Cancel
import Automation.Proofs.Walk.Policies
import Automation.Proofs.Walk.Redrawn
import Automation.Proofs.Script.Places
import Automation.Proofs.Script.ReadBack
import Automation.Proofs.Value.Record
import Automation.Proofs.Engine.Apart
import Automation.Proofs.Graph.Coding
import Automation.Proofs.Script.States
import Automation.Proofs.Expr.Path
import Automation.Proofs.Expr.Refusal
import Automation.Proofs.Expr.Sequence
import Automation.Proofs.Browser.Plans
import Automation.Proofs.Config.References
import Automation.Proofs.Execution.Forms
import Automation.Proofs.Expr.Context
import Automation.Proofs.Execution.Progress
import Automation.Proofs.Graph.Selection
import Automation.Proofs.Text.Pieces
import Automation.Proofs.Engine.Opening
import Automation.Proofs.Browser.Destination
