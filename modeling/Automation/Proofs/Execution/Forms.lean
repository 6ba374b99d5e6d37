import Automation.Execution.Dispatch
import Automation.Proofs.Correspondence
import Automation.Proofs.Graph.Coding
import Automation.Proofs.Script.States
import Automation.Regex.Reader
import Automation.Web.Standard

/-!
# The forms of a result

A result has two forms: its encoding, and the value that conditions and scripts see. They resolve a
payload field of the name `success` or `error` in opposite ways, so they are the same only while no
payload has one. Results that were decoded are that way (`NodeResult.plain_of_ofValue?`), and so is
whatever a node answers (`results_faithful`): nodes name the fields of their payload themselves, and
what comes from a page, a script or the network stands under such a name.
-/

namespace Automation

namespace NodeResult

/-- A result whose forms agree: the payload has no field of the names of the result itself, the
encoding is what conditions and scripts see, and the result is found again in it. -/
structure Faithful (r : NodeResult) : Prop where
  success : r.get? "success" = none
  error : r.get? "error" = none
  shown : r.encode = r.toValue
  again : ofValue? r.encode = some r

/-- A result whose payload is a normal object with neither of the names of the result itself. -/
structure Plain (r : NodeResult) : Prop where
  success : r.get? "success" = none
  error : r.get? "error" = none
  ordered : (Value.object r.data).Ordered

theorem Plain.fieldsOrdered {r : NodeResult} (h : r.Plain) : Fields.Ordered r.data := by
  cases h.ordered with
  | object ordered _ => exact ordered

theorem plain_succeeded : succeeded.Plain :=
  ⟨rfl, rfl, .object List.Pairwise.nil (by simp [succeeded])⟩

theorem plain_failed (e : String) : (failed e).Plain :=
  ⟨rfl, rfl, .object List.Pairwise.nil (by simp [failed])⟩

/-- A field of another name leaves a result plain. -/
theorem Plain.with {r : NodeResult} (h : r.Plain) {key : String} {v : Value}
    (foreign : key ≠ "success" ∧ key ≠ "error") (ordered : v.Ordered) : (r.with key v).Plain where
  success := (Fields.get?_insert_of_ne foreign.1.symm v r.data).trans h.success
  error := (Fields.get?_insert_of_ne foreign.2.symm v r.data).trans h.error
  ordered := h.ordered.insert key ordered

/-- What is under each key of an encoded result. -/
theorem Plain.get?_toPairs {r : NodeResult} (h : r.Plain) (key : String) :
    Fields.get? key r.toPairs.reverse =
      if key = "success" then some (.bool r.success)
      else if key = "error" then r.error.map Value.string
      else Fields.get? key r.data := by
  have backwards : Fields.get? key r.data.reverse = Fields.get? key r.data := by
    rw [← Fields.get?_ofPairs, h.fieldsOrdered.ofPairs_eq]
  have success := h.success
  have error := h.error
  unfold get? at success error
  simp only [toPairs, List.reverse_append, Fields.get?_append, backwards, reverse_optionalField,
    get?_optionalField]
  by_cases first : key = "success"
  · subst first
    simp [success, Fields.get?]
  by_cases second : key = "error"
  · subst second
    simp [error, Fields.get?]
  simp [Fields.get?, first, second, Ne.symm first, Ne.symm second]

/-- **A plain result is encoded as conditions and scripts see it.** -/
theorem Plain.encode_eq {r : NodeResult} (h : r.Plain) : r.encode = r.toValue := by
  have shown := h.fieldsOrdered.insert "success" (.bool r.success)
  have error : Fields.get? "error" r.data = none := h.error
  have keys (key : String) := h.get?_toPairs key
  unfold encode toValue
  cases failed : r.error with
  | none =>
    refine congrArg Value.object ((Fields.Ordered.ofPairs _).ext shown fun key => ?_)
    rw [Fields.get?_ofPairs, keys, Fields.get?_insert, failed]
    grind
  | some e =>
    refine congrArg Value.object ((Fields.Ordered.ofPairs _).ext
      (shown.insert "error" (.string e)) fun key => ?_)
    rw [Fields.get?_ofPairs, keys, Fields.get?_insert, Fields.get?_insert, failed]
    grind

/-- **A plain result is found again in its encoding.** -/
theorem Plain.ofValue?_encode {r : NodeResult} (h : r.Plain) : ofValue? r.encode = some r := by
  have written (name : String) :=
    (Record.field?_ofPairs name r.toPairs).trans (congrArg some (h.get?_toPairs name))
  have success : Record.required "success" Value.asBool? (Fields.ofPairs r.toPairs) =
      some r.success := Record.required_of_field (written "success")
  have error : Record.optional "error" Value.asString? (Fields.ofPairs r.toPairs) =
      some r.error := Record.optional_of_field (written "error") fun _ _ => ⟨nofun, rfl⟩
  -- The other fields are those of the payload.
  have rest : (Fields.ofPairs r.toPairs).filter
      (fun field => field.1 ≠ "success" ∧ field.1 ≠ "error") = r.data := by
    refine Fields.Ordered.ext ((Fields.Ordered.ofPairs _).filter _) h.fieldsOrdered fun key => ?_
    rw [Fields.get?_filter fun key => key ≠ "success" ∧ key ≠ "error", Fields.get?_ofPairs,
      h.get?_toPairs]
    have success : Fields.get? "success" r.data = none := h.success
    have error : Fields.get? "error" r.data = none := h.error
    grind
  simp only [encode, ofValue?, success, error, rest, h.ordered.asObject?_eq, bind, Option.bind]
  rfl

/-- **What is decoded is plain.** -/
theorem plain_of_ofValue? {v : Value} {r : NodeResult} (h : ofValue? v = some r) : r.Plain := by
  cases v with
  | object fields =>
    simp only [ofValue?, bind, Option.bind_eq_some_iff, pure, Option.some.injEq] at h
    obtain ⟨success, _, error, _, data, decoded, rfl⟩ := h
    have ordered := Value.ordered_of_asObject? decoded
    have missing (key : String) (own : key = "success" ∨ key = "error") :
        Fields.get? key data = none := by
      cases decoded
      rw [Value.get?_normalizeFields]
      · rfl
      · intro field there same
        have kept := (List.mem_filter.mp there).2
        rcases own with rfl | rfl <;> simp [same] at kept
    exact ⟨missing _ (.inl rfl), missing _ (.inr rfl), ordered⟩
  | _ => cases h

theorem Plain.faithful {r : NodeResult} (h : r.Plain) : r.Faithful :=
  ⟨h.success, h.error, h.encode_eq, h.ofValue?_encode⟩

end NodeResult

/-! ## Requests and scripts -/

/-- What the network answers is read into a normal value. -/
theorem Web.Request.send_ordered [Library] (network : Network) (r : Request) :
    Gives (fun answer => answer.2.Ordered) (r.send network) := by
  unfold send
  split
  · exact .error _
  · split
    · exact .error _
    · exact .ok .null
    · split
      · exact .ok (Value.ordered_normalize _)
      · exact .error _

theorem ApiCall.result_plain [Web.Library] (userAgent : String) (network : Web.Network)
    (c : ApiCall) :
    (c.result userAgent network).Plain := by
  have sent : Gives (fun answer => answer.2.Ordered) (c.send userAgent network) :=
    Gives.bind_of_forall fun request => request.send_ordered network
  unfold result
  split
  next status data answered =>
    have told : (NodeResult.succeeded.with "status" (.ofNat status)).Plain :=
      NodeResult.plain_succeeded.with (by decide) (Value.ordered_ofNat status)
    exact told.with (by decide) (sent _ answered)
  next => exact NodeResult.plain_failed _

/-- The variables of a script are in order if the context and what the node says are. -/
theorem ScriptNode.bindings_ordered {s : ScriptNode} (normal : s.Normal) (id : String)
    {context : Fields} (h : (Value.object context).Ordered) :
    (Value.object (s.bindings id context)).Ordered := by
  have shared : (Value.object (Expr.bindingsOfContext context)).Ordered := h.insert _ h
  have own : ∀ field ∈ s.context.getD [], field.2.Ordered := by
    intro field there
    cases said : s.context with
    | none => simp [said] at there
    | some fields =>
      cases normal fields said with
      | object _ ordered => exact ordered field (by simpa [said] using there)
  exact (shared.insertAll own).insert _ (.string id)

theorem ScriptNode.result_plain [Regex.Library] (limits : Script.Limits) {s : ScriptNode}
    (normal : s.Normal) (id : String) {context : Fields} (h : (Value.object context).Ordered) :
    Gives NodeResult.Plain (s.result limits id context) := by
  unfold result
  split
  next v ran =>
    have ordered := Script.run_ordered limits s.code (s.bindings_ordered normal id h) v ran
    exact .ok (NodeResult.plain_succeeded.with (by decide) ordered)
  next =>
    split
    · exact .error _
    · exact .ok (NodeResult.plain_failed _)

/-! ## Browser actions -/

namespace Browser

open NodeResult (plain_succeeded plain_failed)

variable {m : Type → Type} [Monad m] (W : Assurance m) (b : Browser m)

/-- A browser whose extractions find normal values. -/
def FindsOrdered : Prop :=
  ∀ index selector textOnly, W.Holds (Gives fun items => ∀ v ∈ items, v.Ordered)
    (b.call index (.extract selector textOnly))

theorem withNavigationStatus_plain (status : Option Nat) {r : NodeResult} (h : r.Plain) :
    (withNavigationStatus status r).Plain := by
  unfold withNavigationStatus
  split
  next code =>
    have told : (r.with "status" (.ofNat code)).Plain :=
      h.with (by decide) (Value.ordered_ofNat code)
    dsimp only
    split
    · exact told
    · exact told.with (by decide) (.string _)
  next => exact h.with (by decide) (.string _)

theorem navigate_plain (config : BrowserConfig) (index : Nat) (url : String) :
    (W.fallible BrowserError).Holds NodeResult.Plain (b.navigate config index url) := by
  refine Assurance.after _ fun status => Assurance.after _ fun title =>
    Assurance.after _ fun reached => Assurance.pure _ ?_
  exact withNavigationStatus_plain status
    ((plain_succeeded.with (by decide) (.string _)).with (by decide) (.string _))

variable {W b}

/-- Whatever an action does, its result is plain. -/
theorem execute_plain [Web.Library] (h : b.FindsOrdered W) (config : BrowserConfig)
    (a : BrowserAction) (index : Nat) :
    (W.fallible BrowserError).Holds NodeResult.Plain (b.execute config a index) := by
  unfold execute
  cases a.action with
  | navigate => exact Assurance.after _ fun url => b.navigate_plain W config index url
  | click | type | select =>
    exact Assurance.after _ fun _ => Assurance.after _ fun _ => Assurance.pure _ plain_succeeded
  | waitForSelector => exact Assurance.after _ fun _ => Assurance.pure _ plain_succeeded
  | waitForNavigation =>
    exact Assurance.after _ fun _ => Assurance.after _ fun _ =>
      Assurance.pure _ (plain_succeeded.with (by decide) (.string _))
  | screenshot =>
    exact Assurance.after _ fun _ =>
      Assurance.pure _ (plain_succeeded.with (by decide) (.string _))
  | extractData =>
    refine Assurance.after _ fun _ => Assurance.bind _ (h index _ _) fun found ordered => ?_
    exact Assurance.pure _ (plain_succeeded.with (by decide) (.array ordered))

theorem attempt_plain [Web.Library] (h : b.FindsOrdered W) (config : BrowserConfig)
    (a : BrowserAction) :
    (W.stateful SessionState).Holds (Gives NodeResult.Plain) (b.attempt config a) := by
  refine Assurance.after _ fun acquired => ?_
  cases acquired with
  | error e => exact Assurance.pure _ (.error e)
  | ok generation =>
    refine Assurance.after _ fun usable => ?_
    cases usable with
    | none => exact Assurance.pure _ (.error _)
    | some index =>
      exact fun s => W.bind (execute_plain h config a index) fun answer plain => W.pure plain

theorem attempts_plain [Web.Library] (h : b.FindsOrdered W) (config : BrowserConfig)
    (a : BrowserAction) (retries : Nat) :
    (W.stateful SessionState).Holds NodeResult.Plain (b.attempts config a retries) := by
  induction retries with
  | zero =>
    refine Assurance.bind _ (attempt_plain h config a) fun outcome plain => ?_
    cases outcome with
    | ok r => exact Assurance.pure _ (plain r rfl)
    | error e => exact Assurance.after _ fun _ => Assurance.pure _ (plain_failed _)
  | succ retries ih =>
    refine Assurance.bind _ (attempt_plain h config a) fun outcome plain => ?_
    cases outcome with
    | ok r => exact Assurance.pure _ (plain r rfl)
    | error e =>
      refine Assurance.after _ fun _ => ?_
      split
      · exact ih
      · exact Assurance.pure _ (plain_failed _)

/-- **What a browser answers to an action is plain**, whichever browser it is. -/
theorem perform_plain [Web.Library] (h : b.FindsOrdered W) {n : Type → Type} [Monad n]
    (V : Assurance n) {locked : Managed m NodeResult → n NodeResult}
    (kept : ∀ x, (W.stateful SessionState).Holds NodeResult.Plain x →
      V.Holds NodeResult.Plain (locked x)) (config : BrowserConfig) (a : BrowserAction) :
    V.Holds NodeResult.Plain (b.perform locked config a) := by
  unfold perform
  cases a.validate with
  | error e => exact V.pure (plain_failed _)
  | ok _ => exact kept _ (attempts_plain h config a _)

end Browser

namespace Session

/-- Whether the pages of the scripted browser hold normal values. -/
def HoldsOrdered (s : Session) : Prop :=
  ∀ v ∈ s.browser.extracted, v.Ordered

theorem backend_findsOrdered : backend.FindsOrdered (Activity.assurance HoldsOrdered) := by
  intro index selector textOnly
  refine Assurance.after _ fun delay => Assurance.after _ fun _ =>
    Assurance.after _ fun called => ?_
  cases called with
  | error e => exact Assurance.pure _ (.error e)
  | ok _ => exact fun s ordered => .ok ordered

theorem perform_plain [Web.Library] (config : BrowserConfig) (a : BrowserAction) :
    (perform config a).AlwaysWhile HoldsOrdered NodeResult.Plain := by
  let W : Assurance (Activity Session) := Activity.assurance HoldsOrdered
  refine Browser.perform_plain (W := W) backend_findsOrdered W (fun x plain => ?_) config a
  -- The lock and the state that is put back do not touch the answer.
  refine W.after fun _ => W.bind (P := NodeResult.Plain) (W.after fun s => ?_) fun r plain =>
    W.after fun _ => W.pure plain
  exact W.bind (plain s.toSessionState) fun answer plain => W.after fun _ => W.pure plain

end Session

/-! ## Nodes -/

namespace Dispatcher

section

variable {m : Type → Type} [Monad m]

/-- What a node is answered where actions are performed and time passes in any monad. -/
def executeBy [Regex.Library] [Web.Library] (perform : BrowserAction → m NodeResult)
    (pass : Nat → m Unit) (d : Dispatcher) (n : Node) (context : Fields) :
    m (Except RunError NodeResult) :=
  match n.kind with
  | .start => pure (.ok (NodeResult.succeeded.with "message" (.string "Workflow started")))
  | .finish => pure (.ok (NodeResult.succeeded.with "message" (.string "Workflow finished")))
  | .task => pure (.ok .succeeded)
  | .decision => pure (.ok (NodeResult.succeeded.with "nodeId" (.string n.id)))
  | .browserAction a => do
    let r ← perform a
    pure (.ok r)
  | .delay milliseconds => do
    let time := milliseconds.getD defaultDelay
    pass time
    pure (.ok (NodeResult.succeeded.with "delayedMs" (.ofNat time)))
  | .apiCall c => pure (.ok (c.result d.userAgent d.network))
  | .script s => pure (s.result d.limits n.id context)
  | .unsupported => pure (.error (.unsupportedNodeType n.id))

/-- The dispatcher performs actions in the session that tasks share. -/
theorem execute_eq [Regex.Library] [Web.Library] (d : Dispatcher) (n : Node) (context : Fields) :
    d.execute n context = d.executeBy (Session.perform d.browser) delay n context := by
  unfold execute executeBy
  cases n.kind <;> rfl

/-- **What a node is answered is plain**, if the results of actions are, and if its context and the
variables of its script are normal. -/
theorem executeBy_plain [Regex.Library] [Web.Library] (W : Assurance m)
    {perform : BrowserAction → m NodeResult} (performed : ∀ a, W.Holds NodeResult.Plain (perform a))
    (pass : Nat → m Unit) (d : Dispatcher) {n : Node} (own : ∀ s, n.kind = .script s → s.Normal)
    {context : Fields} (h : (Value.object context).Ordered) :
    W.Holds (Gives NodeResult.Plain) (d.executeBy perform pass n context) := by
  have succeeded := NodeResult.plain_succeeded
  unfold executeBy
  split
  case h_1 | h_2 | h_4 => exact W.pure (.ok (succeeded.with (by decide) (.string _)))
  case h_3 => exact W.pure (.ok succeeded)
  case h_5 a _ => exact W.bind (performed a) fun r plain => W.pure (.ok plain)
  case h_6 =>
    exact W.after fun _ => W.pure (.ok (succeeded.with (by decide) (Value.ordered_ofNat _)))
  case h_7 c _ => exact W.pure (.ok (c.result_plain d.userAgent d.network))
  case h_8 s said => exact W.pure (s.result_plain d.limits (own s said) n.id h)
  case h_9 => exact W.pure (.error _)

theorem executeBy_faithful [Regex.Library] [Web.Library] (W : Assurance m)
    {perform : BrowserAction → m NodeResult} (performed : ∀ a, W.Holds NodeResult.Plain (perform a))
    (pass : Nat → m Unit) (d : Dispatcher) {n : Node} (own : ∀ s, n.kind = .script s → s.Normal)
    {context : Fields} (h : (Value.object context).Ordered) :
    W.Holds (Gives NodeResult.Faithful) (d.executeBy perform pass n context) :=
  W.mono (executeBy_plain W performed pass d own h) fun _ plain =>
    plain.mono fun _ => NodeResult.Plain.faithful

end

end Dispatcher

/-- **The forms of every result agree.** They do for what is decoded, and for what a node is answered
in a normal context, whatever the network answers: by the dispatcher while others use the session,
and over any browser in any monad. -/
theorem results_faithful [Regex.Library] [Web.Library] :
    (∀ v r, NodeResult.ofValue? v = some r → r.Faithful) ∧
      ∀ (d : Dispatcher) (n : Node) (context : Fields), (∀ s, n.kind = .script s → s.Normal) →
        (Value.object context).Ordered →
          (d.execute n context).AlwaysWhile Session.HoldsOrdered (Gives NodeResult.Faithful) ∧
          ∀ (m : Type → Type) [Monad m] (W : Assurance m) (b : Browser m), b.FindsOrdered W →
            ∀ pass, (W.stateful SessionState).Holds (Gives NodeResult.Faithful)
              (d.executeBy (b.perform id d.browser) pass n context) := by
  refine ⟨fun v r decoded => (NodeResult.plain_of_ofValue? decoded).faithful,
    fun d n context own h => ⟨?_, fun m _ W b found pass => ?_⟩⟩
  · rw [d.execute_eq]
    exact Dispatcher.executeBy_faithful (Activity.assurance Session.HoldsOrdered)
      (Session.perform_plain d.browser) _ d own h
  · have performed := Browser.perform_plain found (W.stateful SessionState) (fun x plain => plain)
    exact Dispatcher.executeBy_faithful _ (performed d.browser) pass d own h

/-- A decoded failure whose fields come in no order, a script that shadows what its context holds
under the names of results, and the scripted browser. -/
theorem results_faithful_shadowed :
    let v : Value := .object [("status", .ofNat 404), ("success", .bool false), ("error", .null),
      ("data", .object [("error", .string "no"), ("code", .ofNat 7)])]
    let d : Dispatcher := ⟨.default, ⟨10000, 64⟩, "agent", fun _ => none⟩
    let own : Fields := [("error", .string "own"), ("success", .null)]
    let n : Node :=
      ⟨"s", "", none, none, .script ⟨"return \x7b success: error \x7d;", some own⟩⟩
    let context : Fields := [("error", .ofNat 1), ("success", .bool true)]
    let W : Assurance (Activity Session) := Activity.assurance Session.HoldsOrdered
    (∃ r, NodeResult.ofValue? v = some r ∧ r.Faithful) ∧
      (d.execute n context).AlwaysWhile Session.HoldsOrdered (Gives NodeResult.Faithful) ∧
      (W.stateful SessionState).Holds (Gives NodeResult.Faithful)
        (d.executeBy (Session.backend.perform id d.browser) (fun _ => pure ()) n context) := by
  intro v d own n context W
  obtain ⟨decoded, answered⟩ := results_faithful
  have normal : ∀ s, n.kind = .script s → s.Normal := by
    rintro s said fields there
    cases said
    cases there
    exact Value.ordered_of_asObject? (v := .object own) rfl
  obtain ⟨shared, anywhere⟩ := answered d n context normal
    (Value.ordered_of_asObject? (v := .object context) rfl)
  exact ⟨⟨_, rfl, decoded v _ rfl⟩, shared,
    anywhere _ W Session.backend Session.backend_findsOrdered fun _ => pure ()⟩

end Automation
