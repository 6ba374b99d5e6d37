import Automation.Browser.Scripted
import Automation.Proofs.Browser.Journal

/-!
# The scripted browser amid disturbances

From outside, failures are asked for, processes go away and pages are closed, at any time. A `World`
is the scripted browser with what is still to reach it: before each of its atomic steps to come, some
disturbances. None of them touches the record that the browser keeps of a session, which is the calls
to its page and how often each of its parts was closed (`records_disturbed`); each step of the browser
does so in one way (`launch_records`, `call_records`, `close_records`).
-/

namespace Automation

/-! ## Disturbances -/

/-- What reaches the scripted browser from outside. -/
inductive Disturbance where
  | fail (op : Operation) (e : BrowserError)
  | launchUnusable (count : Nat)
  | answerNavigations (status : Option Nat)
  | answerExtractions (data : List Value)
  | delay (milliseconds : Nat)
  | disconnect (index : Nat)
  | closePage (index : Nat)

/-- The browser after a disturbance. -/
def Disturbance.apply (b : ScriptedBrowser) : Disturbance → ScriptedBrowser
  | fail op e => { b with failures := b.failures ++ [(op, e)] }
  | launchUnusable count => { b with unusableLaunches := count }
  | answerNavigations status => { b with navigationStatus := status }
  | answerExtractions data => { b with extracted := data }
  | delay milliseconds => { b with delay := milliseconds }
  | disconnect index => b.disconnect index
  | closePage index => b.closePage index

/-- The browser after some disturbances. -/
def ScriptedBrowser.disturbed (b : ScriptedBrowser) (ds : List Disturbance) : ScriptedBrowser :=
  ds.foldl Disturbance.apply b

/-- The scripted browser, and the disturbances before each of its steps to come. -/
structure World where
  browser : ScriptedBrowser
  schedule : List (List Disturbance)

/-- A step of the browser, after the disturbances before it. -/
def World.step (f : ScriptedBrowser → α × ScriptedBrowser) : StateM World α := fun w =>
  let (a, browser) := f (w.browser.disturbed (w.schedule.headD []))
  (a, ⟨browser, w.schedule.tail⟩)

/-- The browser of a world. Its time is that of the schedule. -/
def World.backend : Browser (StateM World) :=
  ScriptedBrowser.backend World.step (fun _ _ => pure ()) fun _ => pure ()

/-! ## Records -/

/-- What is recorded of a session: the calls to its page, and how often its page, its context and its
process were closed. -/
structure SessionRecord where
  calls : List PageCall
  closes : Nat × Nat × Nat

namespace SessionRecord

/-- The record of a session that was just launched. -/
def fresh : SessionRecord := ⟨[], 0, 0, 0⟩

/-- The record after a call. -/
def called (c : PageCall) (r : SessionRecord) : SessionRecord :=
  { r with calls := r.calls ++ [c] }

/-- The record after a part was closed. -/
def closed (part : SessionPart) (r : SessionRecord) : SessionRecord :=
  match part, r.closes with
  | .page, (p, c, s) => { r with closes := (p + 1, c, s) }
  | .context, (p, c, s) => { r with closes := (p, c + 1, s) }
  | .process, (p, c, s) => { r with closes := (p, c, s + 1) }

end SessionRecord

/-- What is recorded of the session. -/
def LaunchedSession.record (s : LaunchedSession) : SessionRecord :=
  ⟨s.calls, s.pageCloses, s.contextCloses, s.processCloses⟩

namespace ScriptedBrowser

variable (b : ScriptedBrowser)

/-- What is recorded of the sessions. -/
def records : List SessionRecord :=
  b.sessions.map LaunchedSession.record

/-- A change of a session that changes its record in a way. -/
theorem records_update (index : Nat) {f : LaunchedSession → LaunchedSession} {g : SessionRecord → SessionRecord}
    (h : ∀ s, (f s).record = g s.record) :
    (b.update index f).records = b.records.modify index g := by
  unfold update records
  refine List.ext_getElem? fun i => ?_
  rw [List.getElem?_map, List.getElem?_modify, List.getElem?_modify, List.getElem?_map]
  cases b.sessions[i]? with
  | none => rfl
  | some s =>
    simp only [Option.map_some]
    split <;> simp [h]

theorem records_update_of_same (index : Nat) {f : LaunchedSession → LaunchedSession}
    (h : ∀ s, (f s).record = s.record) : (b.update index f).records = b.records :=
  (b.records_update index (g := id) h).trans (List.modify_id ..)

@[simp] theorem records_takeFailure (op : Operation) : (b.takeFailure op).2.records = b.records :=
  rfl

/-- Disturbances leave the records alone. -/
theorem records_disturbed (ds : List Disturbance) : (b.disturbed ds).records = b.records := by
  unfold disturbed
  induction ds generalizing b with
  | nil => rfl
  | cons d rest ih =>
    rw [List.foldl_cons, ih]
    cases d with
    | disconnect index => exact b.records_update_of_same index fun _ => rfl
    | closePage index => exact b.records_update_of_same index fun _ => rfl
    | _ => rfl

/-- A launch either fails or adds a record. -/
theorem launch_records :
    match b.launch.1 with
    | .error _ => b.launch.2.records = b.records
    | .ok index => index = b.records.length ∧ b.launch.2.records = b.records ++ [.fresh] := by
  unfold launch
  have same := b.records_takeFailure .launch
  cases taken : b.takeFailure .launch with
  | mk failure b' =>
    rw [taken] at same
    cases failure with
    | some e => exact same
    | none =>
      rw [← same]
      exact ⟨(List.length_map _).symm, List.map_append⟩

/-- A call either fails or adds to the record of the session. -/
theorem call_records (index : Nat) (c : PageCall) :
    (b.call index c).2.records =
      match (b.call index c).1 with
      | .error _ => b.records
      | .ok () => b.records.modify index (SessionRecord.called c) := by
  unfold call
  have same := b.records_takeFailure c.operation
  cases taken : b.takeFailure c.operation with
  | mk failure b' =>
    rw [taken] at same
    cases failure with
    | some e => exact same
    | none =>
      dsimp only at same ⊢
      rw [← same]
      cases b'.sessions[index]? with
      | none => rfl
      | some session =>
        dsimp only
        cases session.connected
        · rfl
        · cases session.pageClosed
          · exact b'.records_update index fun _ => rfl
          · rfl

/-- A part is closed, whether closing it fails or not. -/
theorem close_records (index : Nat) (part : SessionPart) :
    (b.close index part).2.records = b.records.modify index (SessionRecord.closed part) := by
  have closed := b.records_update index (f := fun s => s.closed part) (g := SessionRecord.closed part)
    fun s => by cases part <;> rfl
  have same := (b.update index fun s => s.closed part).records_takeFailure part.operation
  unfold close
  cases taken : (b.update index fun s => s.closed part).takeFailure part.operation with
  | mk failure b' =>
    rw [taken] at same
    cases failure <;> exact same.trans closed

end ScriptedBrowser

end Automation
