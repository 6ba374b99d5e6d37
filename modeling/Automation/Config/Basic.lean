import Automation.Toml.Writer
import Automation.Value.Decode

/-!
# Settings

The settings of an engine in five sections. Every section and every field of it has a default.
-/

namespace Automation

/-- What a run does when it would visit a node again. -/
inductive RevisitPolicy where
  /-- It fails. -/
  | fail
  /-- It ends as completed although it has not reached an end node. -/
  | complete
  deriving Repr, DecidableEq

/-- The settings of runs. -/
structure EngineConfig where
  revisitPolicy : RevisitPolicy
  deriving Repr, DecidableEq

/-- The settings of the browser session. -/
structure BrowserConfig where
  headless : Bool
  /-- The path of the browser, unless it is to be found. -/
  executable : Option String
  launchArgs : List String
  viewportWidth : Nat
  viewportHeight : Nat
  userAgent : String
  defaultTimeoutMs : Nat
  /-- How often an action is tried again after the session was lost. -/
  maxActionRetries : Nat
  /-- How often a navigation is tried again on the same page. -/
  maxNavigationRetries : Nat
  /-- The pause before a navigation is tried again, in milliseconds. -/
  navigationBackoffMs : Nat
  deriving Repr, DecidableEq

/-- The settings of HTTP requests. -/
structure HttpConfig where
  timeoutSecs : Nat
  userAgent : String
  deriving Repr, DecidableEq

/-- The limits of scripts. -/
structure ScriptConfig where
  maxSteps : Nat
  maxDepth : Nat
  deriving Repr, DecidableEq

/-- The settings of the channel of events. -/
structure EventsConfig where
  capacity : Nat
  deriving Repr, DecidableEq

/-- All settings. -/
structure Config where
  engine : EngineConfig
  browser : BrowserConfig
  http : HttpConfig
  script : ScriptConfig
  events : EventsConfig
  deriving Repr, DecidableEq

namespace RevisitPolicy

/-- The name of a policy. -/
def name : RevisitPolicy → String
  | fail => "fail"
  | complete => "complete"

/-- Decodes a policy. The caller says how a name is read. -/
def ofValue? (name? : Value → Option String) (v : Value) : Option RevisitPolicy :=
  (name? v).bind fun name => [fail, complete].find? fun p => p.name == name

end RevisitPolicy

/-- The first number that is no 32-bit word. -/
def halfWordBound : Nat := Nat.pow 2 32

/-- The first number that is no 64-bit word. -/
def fullWordBound : Nat := Nat.pow 2 64

namespace EngineConfig

/-- The default settings. -/
def default : EngineConfig := ⟨.fail⟩

/-- The names of the fields. -/
def fieldNames : List String := ["revisit_policy"]

/-- Decodes the section. The caller says how a name is read. -/
def ofValue? (name? : Value → Option String) (v : Value) : Option EngineConfig := do
  let r ← Record.ofValue? fieldNames v
  let policy ← r.withDefault "revisit_policy" (RevisitPolicy.ofValue? name?) default.revisitPolicy
  pure ⟨policy⟩

/-- The fields of the section. -/
def toFields (c : EngineConfig) : List (String × Toml.Entry) :=
  [("revisit_policy", .text c.revisitPolicy.name)]

end EngineConfig

namespace BrowserConfig

/-- The default settings. -/
def default : BrowserConfig where
  headless := true
  executable := none
  launchArgs := []
  viewportWidth := 1280
  viewportHeight := 800
  userAgent :=
    "Mozilla/5.0 (X11; Linux x86_64) AppleWebKit/537.36 (KHTML, like Gecko) " ++
      "Chrome/124.0 Safari/537.36 rpaflow/0.3"
  defaultTimeoutMs := 30000
  maxActionRetries := 2
  maxNavigationRetries := 2
  navigationBackoffMs := 1000

/-- The names of the fields. -/
def fieldNames : List String :=
  ["headless", "executable", "launch_args", "viewport_width", "viewport_height", "user_agent",
    "default_timeout_ms", "max_action_retries", "max_navigation_retries", "navigation_backoff_ms"]

/-- Decodes the section. -/
def ofValue? (v : Value) : Option BrowserConfig := do
  let r ← Record.ofValue? fieldNames v
  let headless ← r.withDefault "headless" Value.asBool? default.headless
  let executable ← r.optional "executable" Value.asString?
  let launchArgs ← r.withDefault "launch_args" (Value.asList? Value.asString?) default.launchArgs
  let viewportWidth ←
    r.withDefault "viewport_width" (Value.asNat? halfWordBound) default.viewportWidth
  let viewportHeight ←
    r.withDefault "viewport_height" (Value.asNat? halfWordBound) default.viewportHeight
  let userAgent ← r.withDefault "user_agent" Value.asString? default.userAgent
  let defaultTimeoutMs ←
    r.withDefault "default_timeout_ms" (Value.asNat? fullWordBound) default.defaultTimeoutMs
  let maxActionRetries ←
    r.withDefault "max_action_retries" (Value.asNat? halfWordBound) default.maxActionRetries
  let maxNavigationRetries ←
    r.withDefault "max_navigation_retries" (Value.asNat? halfWordBound)
      default.maxNavigationRetries
  let navigationBackoffMs ←
    r.withDefault "navigation_backoff_ms" (Value.asNat? fullWordBound)
      default.navigationBackoffMs
  pure
    { headless, executable, launchArgs, viewportWidth, viewportHeight, userAgent,
      defaultTimeoutMs, maxActionRetries, maxNavigationRetries, navigationBackoffMs }

/-- The fields of the section in their order; an executable that is not set is left out. -/
def toFields (c : BrowserConfig) : List (String × Toml.Entry) :=
  [("headless", .bool c.headless)] ++ (c.executable.map fun e => ("executable", .text e)).toList ++
    [("launch_args", .texts c.launchArgs), ("viewport_width", .number c.viewportWidth),
      ("viewport_height", .number c.viewportHeight), ("user_agent", .text c.userAgent),
      ("default_timeout_ms", .number c.defaultTimeoutMs),
      ("max_action_retries", .number c.maxActionRetries),
      ("max_navigation_retries", .number c.maxNavigationRetries),
      ("navigation_backoff_ms", .number c.navigationBackoffMs)]

end BrowserConfig

namespace HttpConfig

/-- The default settings. -/
def default : HttpConfig := ⟨30, "rpaflow/0.3"⟩

/-- The names of the fields. -/
def fieldNames : List String := ["timeout_secs", "user_agent"]

/-- Decodes the section. -/
def ofValue? (v : Value) : Option HttpConfig := do
  let r ← Record.ofValue? fieldNames v
  let timeoutSecs ← r.withDefault "timeout_secs" (Value.asNat? fullWordBound) default.timeoutSecs
  let userAgent ← r.withDefault "user_agent" Value.asString? default.userAgent
  pure ⟨timeoutSecs, userAgent⟩

/-- The fields of the section. -/
def toFields (c : HttpConfig) : List (String × Toml.Entry) :=
  [("timeout_secs", .number c.timeoutSecs), ("user_agent", .text c.userAgent)]

end HttpConfig

namespace ScriptConfig

/-- The default settings. -/
def default : ScriptConfig := ⟨10000, 64⟩

/-- The names of the fields. -/
def fieldNames : List String := ["max_steps", "max_depth"]

/-- Decodes the section. -/
def ofValue? (v : Value) : Option ScriptConfig := do
  let r ← Record.ofValue? fieldNames v
  let maxSteps ← r.withDefault "max_steps" (Value.asNat? fullWordBound) default.maxSteps
  let maxDepth ← r.withDefault "max_depth" (Value.asNat? fullWordBound) default.maxDepth
  pure ⟨maxSteps, maxDepth⟩

/-- The fields of the section. -/
def toFields (c : ScriptConfig) : List (String × Toml.Entry) :=
  [("max_steps", .number c.maxSteps), ("max_depth", .number c.maxDepth)]

end ScriptConfig

namespace EventsConfig

/-- The default settings. -/
def default : EventsConfig := ⟨256⟩

/-- The names of the fields. -/
def fieldNames : List String := ["capacity"]

/-- Decodes the section. -/
def ofValue? (v : Value) : Option EventsConfig := do
  let r ← Record.ofValue? fieldNames v
  let capacity ← r.withDefault "capacity" (Value.asNat? fullWordBound) default.capacity
  pure ⟨capacity⟩

/-- The fields of the section. -/
def toFields (c : EventsConfig) : List (String × Toml.Entry) :=
  [("capacity", .number c.capacity)]

end EventsConfig

namespace Config

/-- The default settings. -/
def default : Config :=
  ⟨.default, .default, .default, .default, .default⟩

/-- The names of the sections. -/
def sectionNames : List String := ["engine", "browser", "http", "script", "events"]

/-- Decodes all settings. The caller says how a name is read. -/
def decode? (name? : Value → Option String) (v : Value) : Option Config := do
  let r ← Record.ofValue? sectionNames v
  let engine ← r.withDefault "engine" (EngineConfig.ofValue? name?) .default
  let browser ← r.withDefault "browser" BrowserConfig.ofValue? .default
  let http ← r.withDefault "http" HttpConfig.ofValue? .default
  let script ← r.withDefault "script" ScriptConfig.ofValue? .default
  let events ← r.withDefault "events" EventsConfig.ofValue? .default
  pure ⟨engine, browser, http, script, events⟩

/-- Decodes all settings. -/
def ofValue? (v : Value) : Option Config :=
  decode? Value.asName? v

/-- The sections in their order, with their fields. -/
def sections (c : Config) : List (String × List (String × Toml.Entry)) :=
  [("engine", c.engine.toFields), ("browser", c.browser.toFields), ("http", c.http.toFields),
    ("script", c.script.toFields), ("events", c.events.toFields)]

/-- The settings as a TOML document. -/
def text (c : Config) : String := Toml.documentText c.sections

end Config

end Automation
