import ApiStub.Running.Compile
import ApiStub.Service.Exchange

/-!
# Reloading a description

A table is served while the document it was compiled from may change. A change that is reported
makes a new table out of what stands under the path then; new tables wait in line, and the first
of them takes the place of the served one. A document that does not compile changes nothing.

A change may be reported more than once, late, or together with others; what is certain of a
noticed change is only that some report comes after it. A request keeps the table that was served
when it came, whatever is installed before it is answered.

`Run.step` is one event of a run. Events come in any order, so a statement about `Run.steps` is a
statement about every interleaving of writers, reports, installations and requests.
-/

namespace ApiStub.Running

open Config (Settings)
open Route (Table)

/-- The served table and those that wait to be served, the oldest first. -/
structure Rotation where
  /-- The served table. -/
  served : Table
  /-- The tables that wait. -/
  waiting : List Table := []
  deriving Inhabited

namespace Rotation

/-- Puts a new table at the end of the line; without one, nothing changes. -/
def offer (rotation : Rotation) : Except CompileError Table → Rotation
  | .ok table => { rotation with waiting := rotation.waiting ++ [table] }
  | .error _ => rotation

/-- Serves the table that has waited longest. -/
def install (rotation : Rotation) : Rotation :=
  match rotation.waiting with
  | [] => rotation
  | table :: rest => ⟨table, rest⟩

end Rotation

/-- The table of what stands under a path now. -/
def rebuild (settings : Settings) (fresh : ChaChaWords) (path : String)
    (item : Option Files.Item) : Except CompileError Table := do
  let description ← (Api.load settings.openapi path item).mapError .load
  (tableOf settings fresh description).mapError .routes

/-- A request and the table that was served when it came. -/
structure Call where
  /-- The request. -/
  request : Service.Request
  /-- The table. -/
  table : Table

/-- A server and the document it serves. -/
structure Run where
  /-- The settings. -/
  settings : Settings
  /-- The path of the document. -/
  path : String
  /-- What stands under the path. -/
  item : Option Files.Item
  /-- Whether changes are noticed. -/
  watched : Bool := false
  /-- Whether a noticed change is still to be reported. -/
  unreported : Bool := false
  /-- The tables. -/
  tables : Rotation
  /-- The requests that were not answered yet, the oldest first. -/
  calls : List Call := []
  deriving Inhabited

/-- What happens in a run. -/
inductive Event where
  /-- Something else stands under the path from now on. -/
  | write (item : Option Files.Item)
  /-- Changes are noticed from now on. -/
  | watch
  /-- A change is reported, and a table is built. -/
  | report (fresh : ChaChaWords)
  /-- A table that waits is served. -/
  | install
  /-- A request comes. -/
  | accept (request : Service.Request)
  /-- The request at a position is answered. -/
  | answer (position : Nat)

namespace Run

/-- A request that comes now. -/
def call (run : Run) (request : Service.Request) : Call := ⟨request, run.tables.served⟩

/-- The state after an event. Nothing is reported before changes are noticed. -/
def step (run : Run) : Event → Run
  | .write item => { run with item, unreported := run.unreported || run.watched }
  | .watch => { run with watched := true }
  | .report fresh =>
    if run.watched then
      { run with
        unreported := false
        tables := run.tables.offer (rebuild run.settings fresh run.path run.item) }
    else run
  | .install => { run with tables := run.tables.install }
  | .accept request => { run with calls := run.calls ++ [run.call request] }
  | .answer position => { run with calls := run.calls.eraseIdx position }

/-- The state after some events. -/
def steps (run : Run) (events : List Event) : Run := events.foldl step run

/-- The start of a run: what stands under the path is compiled, and no change is noticed yet. -/
def start? (settings : Settings) (fresh : ChaChaWords) (path : String)
    (item : Option Files.Item) : Except CompileError Run := do
  let compiled ← compile settings fresh path item
  pure { settings, path, item, tables := ⟨compiled.table, []⟩ }

/-- What becomes of a request; `fresh` names it if it has no name. -/
def reply {σ : Type} [WordSource σ] (run : Run) (fresh : List UInt8) (call : Call) :
    Draw σ Service.Exchange :=
  (Service.Server.of run.settings call.table).serve fresh call.request

end Run

end ApiStub.Running
