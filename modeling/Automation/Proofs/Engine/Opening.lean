import Automation.Config.File
import Automation.Execution.Engine
import Automation.Proofs.Toml.Words
import Automation.Proofs.Value.Record
import Automation.Web.Standard

/-!
# Opening an engine

The settings of an engine are not checked between the file and the parts that they are for, and the
channel of events refuses two kinds of capacity. One of them cannot come out of a file: a number of
TOML is a signed 64-bit word, so no capacity is too great (`Config.capacity_le_of_load`). The other
one can. An engine with loaded settings is opened or answers with an error, and which of the two it
is depends on whether there is a client, unless the capacity is zero: then nothing handles what the
channel does (`Engine.open_of_loaded`).
-/

namespace Automation

/-! ## Settings out of a file -/

/-- A natural number that is decoded from a word. -/
theorem Value.Words.asNat?_lt {v : Value} {bound n : Nat} (h : v.Words)
    (decoded : v.asNat? bound = some n) : n < Nat.pow 2 63 := by
  unfold asNat? at decoded
  split at decoded
  next m =>
    split at decoded
    · cases decoded
      cases h with
      | number word =>
        have below : m < Int.pow 2 63 := word.2
        have same : Int.pow 2 63 = (Nat.pow 2 63 : Nat) := by decide
        omega
    · cases decoded
  next => cases decoded

/-- The fields of a record hold the integers of the value. -/
theorem Record.words_of_ofValue? {r : Record} {names : List String} {v : Value} (words : v.Words)
    (h : ofValue? names v = some r) : ∀ field ∈ r, field.2.Words := by
  cases words with
  | object fields =>
    cases h
    exact fields
  | array items =>
    rw [ofValue?] at h
    split at h
    · cases h
      exact fun field there => items field.2 (List.of_mem_zip there).2
    · cases h
  | _ => cases h

namespace Config

theorem default_capacity_le : EventsConfig.default.capacity ≤ Channel.maxCapacity := by decide

/-- No capacity that is decoded from words is too great. -/
theorem capacity_le_of_words {v : Value} {c : EventsConfig} (words : v.Words)
    (h : EventsConfig.ofValue? v = some c) : c.capacity ≤ Channel.maxCapacity := by
  obtain ⟨r, record, h⟩ := Option.bind_eq_some_iff.mp h
  obtain ⟨capacity, decoded, same⟩ := Option.bind_eq_some_iff.mp h
  cases same
  rcases Record.origin_of_withDefault decoded with rfl | ⟨w, there, decoded⟩
  · exact default_capacity_le
  · have below := (Record.words_of_ofValue? words record _ there).asNat?_lt decoded
    exact Nat.le_pred_of_lt below

theorem capacity_le_of_decode? {name? : Value → Option String} {v : Value} {c : Config}
    (words : v.Words) (h : decode? name? v = some c) :
    c.events.capacity ≤ Channel.maxCapacity := by
  simp only [decode?, Option.bind_eq_bind, Option.bind_eq_some_iff] at h
  obtain ⟨r, record, engine, -, browser, -, http, -, script, -, events, decoded, same⟩ := h
  cases same
  rcases Record.origin_of_withDefault decoded with rfl | ⟨w, there, decoded⟩
  · exact default_capacity_le
  · exact capacity_le_of_words (Record.words_of_ofValue? words record _ there) decoded

variable [Toml.Library] {env : Environment.Variables} {path : String} {content : FileContent}
  {c : Config}

theorem load_eq_ok_iff :
    load env path content = .ok c ↔ ∃ text, content = .text text ∧ ofText? env text = some c := by
  constructor
  · intro h
    unfold load at h
    split at h
    next text =>
      split at h
      next found =>
        cases h
        exact ⟨text, rfl, found⟩
      next => cases h
    next => cases h
  · rintro ⟨text, rfl, found⟩
    simp only [load, found]

/-- **No capacity out of a file is too great for the channel**, whatever the environment puts into
the text. -/
theorem capacity_le_of_load [Toml.LawfulLibrary] (h : load env path content = .ok c) :
    c.events.capacity ≤ Channel.maxCapacity := by
  obtain ⟨text, -, read⟩ := load_eq_ok_iff.mp h
  obtain ⟨v, read, decoded⟩ := Option.bind_eq_some_iff.mp read
  exact capacity_le_of_decode? (Toml.LawfulLibrary.words read) decoded

/-- Nor is the capacity that there is without a file. -/
theorem capacity_le_of_loadOrDefault [Toml.LawfulLibrary]
    (h : loadOrDefault env path content = .ok c) : c.events.capacity ≤ Channel.maxCapacity := by
  unfold loadOrDefault at h
  split at h
  · cases h
    exact default_capacity_le
  · exact capacity_le_of_load h

end Config

/-! ## The parts of an engine -/

/-- The capacities that a channel refuses. -/
theorem Channel.open?_eq_none_iff {α : Type} {capacity : Nat} :
    Channel.open? (α := α) capacity = none ↔ capacity = 0 ∨ Channel.maxCapacity < capacity := by
  unfold Channel.open?
  split
  next refused => exact iff_of_true rfl refused
  next accepted => exact iff_of_false nofun accepted

/-- The clients that there are where the engine runs. -/
theorem Web.client_eq_ok_iff (timeout : Nat) (userAgent : String) :
    Web.Library.client timeout userAgent = .ok () ↔ Web.isHeaderValue userAgent = true := by
  simp [Web.Library.client]

namespace Engine

variable {c : Config}

/-- **What comes of opening an engine**, for settings whose capacity is not too great. The channel
comes before the dispatcher: where both would be refused nothing handles it. -/
theorem open_cases [Web.Library] (network : Web.Network) (session : Session)
    (within : c.events.capacity ≤ Channel.maxCapacity) :
    (c.events.capacity = 0 ∧ Engine.open network c session = .aborted) ∨
      (c.events.capacity ≠ 0 ∧ Web.Library.client c.http.timeoutSecs c.http.userAgent = .ok () ∧
        ∃ e, Engine.open network c session = .opened e) ∨
      ∃ reason, c.events.capacity ≠ 0 ∧
        Web.Library.client c.http.timeoutSecs c.http.userAgent = .error reason ∧
        Engine.open network c session = .failed (.config ("HTTP client: " ++ reason)) := by
  cases channel : Channel.open? (α := Event) c.events.capacity with
  | none =>
    have none : c.events.capacity = 0 :=
      (Channel.open?_eq_none_iff.mp channel).resolve_right (Nat.not_lt.mpr within)
    exact .inl ⟨none, by rw [Engine.open, channel]⟩
  | some opened =>
    have some : c.events.capacity ≠ 0 := fun none => by
      rw [Channel.open?_eq_none_iff.mpr (.inl none)] at channel
      cases channel
    refine .inr ?_
    cases client : Web.Library.client c.http.timeoutSecs c.http.userAgent with
    | ok _ =>
      refine .inl ⟨some, rfl, ?_⟩
      rw [Engine.open, channel, Dispatcher.ofConfig, client]
      exact ⟨_, rfl⟩
    | error reason =>
      refine .inr ⟨reason, some, rfl, ?_⟩
      rw [Engine.open, channel, Dispatcher.ofConfig, client]

/-- **An engine with loaded settings is opened or answers with an error, unless the capacity of its
channel is zero.** The settings come from any text with any variables of the environment, or are the
default ones where there is no file. What the libraries of TOML and of the web do is not known, but
that the integers of a document are signed 64-bit words. -/
theorem open_of_loaded [Toml.Library] [Toml.LawfulLibrary] [Web.Library] (network : Web.Network)
    (session : Session) {env : Environment.Variables} {path : String} {content : FileContent}
    (loaded : Config.load env path content = .ok c ∨
      Config.loadOrDefault env path content = .ok c) :
    (Engine.open network c session = .aborted ↔ c.events.capacity = 0) ∧
      (c.events.capacity ≠ 0 →
        (Web.Library.client c.http.timeoutSecs c.http.userAgent = .ok () →
          ∃ e, Engine.open network c session = .opened e) ∧
        ∀ reason, Web.Library.client c.http.timeoutSecs c.http.userAgent = .error reason →
          Engine.open network c session = .failed (.config ("HTTP client: " ++ reason))) := by
  have within : c.events.capacity ≤ Channel.maxCapacity :=
    loaded.elim Config.capacity_le_of_load Config.capacity_le_of_loadOrDefault
  obtain ⟨zero, aborted⟩ | ⟨positive, client, e, opened⟩ | ⟨reason, positive, client, failed⟩ :=
    open_cases network session within
  · exact ⟨iff_of_true aborted zero, fun positive => absurd zero positive⟩
  · have returns : Engine.open network c session ≠ .aborted := by simp [opened]
    exact ⟨iff_of_false returns positive, fun _ => ⟨fun _ => ⟨e, opened⟩, by simp [client]⟩⟩
  · have returns : Engine.open network c session ≠ .aborted := by simp [failed]
    refine ⟨iff_of_false returns positive, fun _ => ⟨by simp [client], fun reason' refused => ?_⟩⟩
    obtain rfl : reason = reason' := Except.error.inj (client.symm.trans refused)
    exact failed

/-- A capacity that stands in the environment. -/
theorem open_of_loaded_reference :
    Config.load [("EVENTS", "8")] "rpaflow.toml"
        (.text "[events]\ncapacity = $\x7bEVENTS\x7d") =
          .ok { Config.default with events := ⟨8⟩ } ∧
      ∃ e, Engine.open (fun _ => none) { Config.default with events := ⟨8⟩ }
        (Session.start ScriptedBrowser.fresh) = .opened e := by
  have loaded : Config.load [("EVENTS", "8")] "rpaflow.toml"
      (.text "[events]\ncapacity = $\x7bEVENTS\x7d") =
        .ok { Config.default with events := ⟨8⟩ } :=
    Config.load_eq_ok_iff.mpr ⟨_, rfl, by decide +kernel⟩
  have outcome :=
    open_of_loaded (fun _ => none) (Session.start ScriptedBrowser.fresh) (.inl loaded)
  exact ⟨loaded, (outcome.2 (by decide)).1 ((Web.client_eq_ok_iff _ _).mpr (by decide))⟩

/-- Loaded settings do not always give an engine or an error: nothing refuses a capacity of zero
before the channel does. -/
theorem not_open_of_every_loaded :
    ¬∀ (network : Web.Network) (session : Session) (env : Environment.Variables) (path : String)
      (content : FileContent) (c : Config),
      Config.load env path content = .ok c ∨ Config.loadOrDefault env path content = .ok c →
        Engine.open network c session ≠ .aborted := by
  intro claimed
  have read : Config.ofText? [] "[events]\ncapacity = 0" =
      some { Config.default with events := ⟨0⟩ } := by decide +kernel
  exact claimed (fun _ => none) (Session.start ScriptedBrowser.fresh) [] "rpaflow.toml" _ _
    (.inl (Config.load_eq_ok_iff.mpr ⟨_, rfl, read⟩)) rfl

end Engine

end Automation
