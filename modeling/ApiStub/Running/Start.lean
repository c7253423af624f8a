import ApiStub.Config.Validate
import ApiStub.Running.Reload

/-!
# Starting

Before requests are served, the address for metrics is read if metrics are offered, and then the
document is watched if changes are to be noticed. The first of these that cannot be done keeps the
server from starting.
-/

namespace ApiStub.Running

open Config (Settings)

/-- Why the server does not start. -/
inductive StartError where
  /-- There is no table. -/
  | compile (error : CompileError)
  /-- The address for metrics is none. -/
  | metricsAddress (address : String)
  /-- The document cannot be watched. -/
  | unwatchable

/-- The error in words, where it has words of its own. -/
def StartError.message? : StartError → Option String
  | compile (.load error) => error.message?.map ("Failed to load spec: " ++ ·)
  | compile (.routes error) => some ("Failed to build routes: " ++ error.message)
  | metricsAddress address => some ("Invalid metrics address: " ++ address)
  | unwatchable => none

/-- The address to offer metrics on, when they are offered. -/
def metricsAddress? (settings : Settings) : Except StartError (Option Net.SocketAddress) :=
  if settings.metrics.enabled then
    match Net.SocketAddress.read? settings.metrics.address with
    | some address => .ok (some address)
    | none => .error (.metricsAddress settings.metrics.address)
  else .ok none

/-- Begins to notice changes, when they are to be noticed and there is something to watch. -/
def Run.watchIfSet (run : Run) : Except StartError Run :=
  if run.settings.reload.enabled then
    if run.item.isSome then .ok (run.step .watch) else .error .unwatchable
  else .ok run

/-- What precedes serving requests. -/
def Run.prepare (run : Run) : Except StartError Run := do
  let _ ← metricsAddress? run.settings
  run.watchIfSet

/-- The parts of the program whose log lines are kept by their level. -/
def loggedTargets : List String := ["openapi_mock", "tower_http"]

/-- The directive that keeps the log lines of a level. -/
def logDirective (level : String) : String :=
  ",".intercalate (loggedTargets.map fun target => target ++ "=" ++ level)

end ApiStub.Running
