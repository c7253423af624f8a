import ApiStub.Proofs.Traversal
import ApiStub.Running.Reload

/-!
# What is served while a document changes

A run is followed through its events, and what they give is written down in order: the tables that
reports make, the tables that are installed, the requests that are answered. Tables leave the line
in the order in which they entered it, so what was installed is a beginning of what was made, and
what is left of it waits. A table that is served, waits or is held by a request is the first one or
one that was made.

With a seed, making a table does not depend on anything but the settings and the document. So a
table that was made during a run is the table of a server that is started anew.
-/

namespace ApiStub.Running

open Config (Settings)
open Route (Table)

section Rebuild

variable {settings : Settings} {path : String} {item : Option Files.Item}

theorem map_table_compile (fresh : ChaChaWords) :
    (·.table) <$> compile settings fresh path item = rebuild settings fresh path item := by
  simp only [compile, rebuild]
  rcases (Api.load settings.openapi path item).mapError CompileError.load with error | description
  · rfl
  · rcases built : tableOf settings fresh description with error | table <;>
      simp only [bind, Except.bind, built] <;> rfl

theorem rebuild_of_compile {fresh : ChaChaWords} {compiled : Compilation}
    (succeeded : compile settings fresh path item = .ok compiled) :
    rebuild settings fresh path item = .ok compiled.table := by
  rw [← map_table_compile, succeeded]
  rfl

theorem exists_compile_of_rebuild {fresh : ChaChaWords} {table : Table}
    (succeeded : rebuild settings fresh path item = .ok table) :
    ∃ compiled, compile settings fresh path item = .ok compiled ∧ compiled.table = table := by
  rw [← map_table_compile] at succeeded
  rcases result : compile settings fresh path item with error | compiled
  · rw [result] at succeeded
    cases succeeded
  · rw [result] at succeeded
    exact ⟨compiled, rfl, Except.ok.inj succeeded⟩

theorem rebuild_of_seeded (seeded : settings.mocking.seed.isSome) (fresh other : ChaChaWords) :
    rebuild settings fresh path item = rebuild settings other path item := by
  rcases Option.isSome_iff_exists.mp seeded with ⟨seed, known⟩
  simp only [rebuild, tableOf, Config.Mocking.words, known]

end Rebuild

/-- A table with what stood under the path when it was made. -/
structure Revision where
  /-- What stood under the path. -/
  item : Option Files.Item
  /-- The table. -/
  table : Table

namespace Run

/-- What an event gives, for every event of a run in order. -/
def record {α : Type} (part : Run → Event → List α) : Run → List Event → List α
  | _, [] => []
  | run, event :: events => part run event ++ record part (run.step event) events

/-- The table that a report makes of what stands under the path. -/
def made (run : Run) : Event → List Revision
  | .report fresh =>
    if run.watched then
      match rebuild run.settings fresh run.path run.item with
      | .ok table => [⟨run.item, table⟩]
      | .error _ => []
    else []
  | _ => []

/-- The table that is installed. -/
def installed (run : Run) : Event → List Table
  | .install => run.tables.waiting.head?.toList
  | _ => []

/-- The request that is answered. -/
def answered (run : Run) : Event → List Call
  | .answer position => run.calls[position]?.toList
  | _ => []

theorem mem_record {α : Type} {part : Run → Event → List α} {run : Run} {events : List Event}
    {value : α} (value_mem : value ∈ run.record part events) :
    ∃ before event after, events = before ++ event :: after ∧
      value ∈ part (run.steps before) event := by
  induction events generalizing run with
  | nil => cases value_mem
  | cons event events ih =>
      rcases List.mem_append.mp value_mem with first | later
      · exact ⟨[], event, events, rfl, first⟩
      · rcases ih later with ⟨before, other, after, rfl, found⟩
        exact ⟨event :: before, other, after, rfl, found⟩

theorem record_append {α : Type} (part : Run → Event → List α) (run : Run)
    (before after : List Event) :
    run.record part (before ++ after) =
      run.record part before ++ (run.steps before).record part after := by
  induction before generalizing run with
  | nil => rfl
  | cons event before ih =>
      simp only [List.cons_append, record, ih, List.append_assoc]
      rfl

/-! ## One event -/

@[simp]
theorem settings_step (run : Run) (event : Event) : (run.step event).settings = run.settings := by
  cases event with
  | report fresh => simp only [step]; split <;> rfl
  | _ => rfl

@[simp]
theorem path_step (run : Run) (event : Event) : (run.step event).path = run.path := by
  cases event with
  | report fresh => simp only [step]; split <;> rfl
  | _ => rfl

/-- A report either makes a table that goes to the end of the line, or changes no table. -/
theorem tables_report (run : Run) (fresh : ChaChaWords) :
    (∃ table, run.watched ∧ rebuild run.settings fresh run.path run.item = .ok table ∧
        run.made (.report fresh) = [⟨run.item, table⟩] ∧
        (run.step (.report fresh)).tables =
          { run.tables with waiting := run.tables.waiting ++ [table] }) ∨
      (run.made (.report fresh) = [] ∧ (run.step (.report fresh)).tables = run.tables) := by
  by_cases watched : run.watched
  · rcases succeeded : rebuild run.settings fresh run.path run.item with error | table
    · right
      simp [made, step, watched, succeeded, Rotation.offer]
    · left
      exact ⟨table, watched, rfl, by simp [made, watched, succeeded],
        by simp [step, watched, succeeded, Rotation.offer]⟩
  · right
    simp [made, step, watched]

/-- The first table of the line is installed, if there is one. -/
theorem tables_install (run : Run) :
    (∃ table rest, run.tables.waiting = table :: rest ∧ run.installed .install = [table] ∧
        (run.step .install).tables = ⟨table, rest⟩) ∨
      (run.tables.waiting = [] ∧ run.installed .install = [] ∧
        (run.step .install).tables = run.tables) := by
  rcases line : run.tables.waiting with _ | ⟨table, rest⟩
  · right
    simp [installed, step, line, Rotation.install]
  · left
    exact ⟨table, rest, rfl, by simp [installed, line], by simp [step, line, Rotation.install]⟩

/-- What waited and what is made either is installed or waits. -/
theorem waiting_step (run : Run) (event : Event) :
    run.tables.waiting ++ (run.made event).map Revision.table =
      run.installed event ++ (run.step event).tables.waiting := by
  cases event with
  | report fresh =>
      rcases run.tables_report fresh with ⟨table, -, -, added, now⟩ | ⟨added, now⟩ <;>
        simp [added, now, installed]
  | install =>
      rcases run.tables_install with ⟨table, rest, line, taken, now⟩ | ⟨line, taken, now⟩ <;>
        simp [line, taken, now, made]
  | _ => simp [made, installed, step]

/-- The served table changes when one is installed, and only then. -/
theorem served_step (run : Run) (event : Event) :
    (run.step event).tables.served = (run.installed event).getLast?.getD run.tables.served := by
  cases event with
  | report fresh =>
      rcases run.tables_report fresh with ⟨table, -, -, -, now⟩ | ⟨-, now⟩ <;>
        simp [now, installed]
  | install =>
      rcases run.tables_install with ⟨table, rest, -, taken, now⟩ | ⟨-, taken, now⟩ <;>
        simp [taken, now]
  | _ => rfl

/-- All tables that are served, wait, or are held by a request are good. -/
structure Holds (good : Table → Prop) (run : Run) : Prop where
  served : good run.tables.served
  waiting : ∀ table ∈ run.tables.waiting, good table
  calls : ∀ call ∈ run.calls, good call.table

theorem Holds.step {good : Table → Prop} {run : Run} (holds : run.Holds good) (event : Event)
    (additions : ∀ revision ∈ run.made event, good revision.table) :
    (run.step event).Holds good := by
  have onLine : ∀ table ∈ run.tables.waiting ++ (run.made event).map Revision.table,
      good table := by
    intro table table_mem
    rcases List.mem_append.mp table_mem with old | new
    · exact holds.waiting table old
    · rcases List.mem_map.mp new with ⟨revision, revision_mem, rfl⟩
      exact additions revision revision_mem
  rw [waiting_step] at onLine
  refine ⟨?_, fun table table_mem => onLine table (List.mem_append_right _ table_mem), ?_⟩
  · rw [served_step]
    rcases last : (run.installed event).getLast? with _ | table
    · exact holds.served
    · exact onLine table (List.mem_append_left _ (List.mem_of_getLast? last))
  · intro call call_mem
    cases event with
    | accept request =>
        rcases List.mem_append.mp call_mem with old | new
        · exact holds.calls call old
        · cases List.mem_singleton.mp new
          exact holds.served
    | answer position => exact holds.calls call (List.mem_of_mem_eraseIdx call_mem)
    | report fresh =>
        have same : (run.step (.report fresh)).calls = run.calls := by
          simp only [Run.step]
          split <;> rfl
        exact holds.calls call (same ▸ call_mem)
    | _ => exact holds.calls call call_mem

/-! ## A whole run -/

@[simp]
theorem steps_cons (run : Run) (event : Event) (events : List Event) :
    run.steps (event :: events) = (run.step event).steps events :=
  rfl

theorem steps_append (run : Run) (before after : List Event) :
    run.steps (before ++ after) = (run.steps before).steps after :=
  List.foldl_append

@[simp]
theorem settings_steps (run : Run) (events : List Event) :
    (run.steps events).settings = run.settings := by
  induction events generalizing run with
  | nil => rfl
  | cons event events ih => rw [steps_cons, ih, settings_step]

@[simp]
theorem path_steps (run : Run) (events : List Event) : (run.steps events).path = run.path := by
  induction events generalizing run with
  | nil => rfl
  | cons event events ih => rw [steps_cons, ih, path_step]

theorem waiting_steps (run : Run) (events : List Event) :
    run.tables.waiting ++ (run.record made events).map Revision.table =
      run.record installed events ++ (run.steps events).tables.waiting := by
  induction events generalizing run with
  | nil => simp [record, steps]
  | cons event events ih =>
      simp only [record, List.map_append, steps_cons]
      rw [← List.append_assoc, waiting_step, List.append_assoc, ih, List.append_assoc]

theorem served_steps (run : Run) (events : List Event) :
    (run.steps events).tables.served =
      (run.record installed events).getLast?.getD run.tables.served := by
  induction events generalizing run with
  | nil => rfl
  | cons event events ih =>
      rw [steps_cons, ih, served_step, record, List.getLast?_append]
      cases ((run.step event).record installed events).getLast? <;> rfl

theorem Holds.steps {good : Table → Prop} {run : Run} (holds : run.Holds good)
    {events : List Event} (additions : ∀ revision ∈ run.record made events, good revision.table) :
    (run.steps events).Holds good := by
  induction events generalizing run with
  | nil => exact holds
  | cons event events ih =>
      refine ih (holds.step event fun revision revision_mem => ?_) fun revision revision_mem => ?_
      · exact additions revision (List.mem_append_left _ revision_mem)
      · exact additions revision (List.mem_append_right _ revision_mem)

/-- The table that is served at first, and then those that reports make. -/
def lineage (run : Run) (events : List Event) : List Table :=
  run.tables.served :: (run.record made events).map Revision.table

theorem table_mem_lineage {run : Run} {events : List Event} {revision : Revision}
    (revision_mem : revision ∈ run.record made events) : revision.table ∈ run.lineage events :=
  List.mem_cons_of_mem _ (List.mem_map_of_mem revision_mem)

/-- A table that was made comes from what stood under the path at that moment. -/
theorem rebuild_of_mem_made {run : Run} {events : List Event} {revision : Revision}
    (revision_mem : revision ∈ run.record made events) :
    ∃ before fresh after, events = before ++ .report fresh :: after ∧
      (run.steps before).item = revision.item ∧
      rebuild run.settings fresh run.path revision.item = .ok revision.table := by
  rcases mem_record revision_mem with ⟨before, event, after, split, found⟩
  cases event with
  | report fresh =>
      rcases (run.steps before).tables_report fresh with
        ⟨table, -, succeeded, added, -⟩ | ⟨added, -⟩
      · rw [added] at found
        cases List.mem_singleton.mp found
        rw [settings_steps, path_steps] at succeeded
        exact ⟨before, fresh, after, split, rfl, succeeded⟩
      · rw [added] at found
        cases found
  | _ => cases found

/-- Every request is answered from the first table or from one that was made. -/
theorem table_of_mem_answered {run : Run} {good : Table → Prop} (holds : run.Holds good)
    {events : List Event} (additions : ∀ revision ∈ run.record made events, good revision.table)
    {call : Call} (call_mem : call ∈ run.record answered events) : good call.table := by
  rcases mem_record call_mem with ⟨before, event, after, rfl, found⟩
  have sofar : (run.steps before).Holds good := holds.steps fun revision revision_mem =>
    additions revision (by rw [record_append]; exact List.mem_append_left _ revision_mem)
  cases event with
  | answer position =>
      exact sofar.calls call (List.mem_of_getElem? (Option.mem_toList.mp found))
  | _ => cases found

end Run

section Start

variable {settings : Settings} {fresh : ChaChaWords} {path : String} {item : Option Files.Item}
  {start : Run}

/-- A run starts with the table of what stands under the path, and with nothing under way. -/
theorem Run.start?_eq_ok_iff : Run.start? settings fresh path item = .ok start ↔
    ∃ table, rebuild settings fresh path item = .ok table ∧
      start = { settings, path, item, tables := ⟨table, []⟩ } := by
  constructor
  · intro started
    rcases bind_eq_ok_iff.mp started with ⟨compiled, succeeded, same⟩
    cases same
    exact ⟨compiled.table, rebuild_of_compile succeeded, rfl⟩
  · rintro ⟨table, succeeded, rfl⟩
    rcases exists_compile_of_rebuild succeeded with ⟨compiled, found, rfl⟩
    exact bind_eq_ok_iff.mpr ⟨compiled, found, rfl⟩

/-- Whatever the order of writes, reports, installations and requests: the served table is the one
that was installed last, and at first the one of the start. What was installed is a beginning of
what reports made, in order, and the rest waits. A report that fails changes no table. A request is
answered from one table alone. With a seed, every table that was made is the one that a server
started on that document has. -/
theorem Run.reload_in_order (started : Run.start? settings fresh path item = .ok start)
    (events : List Event) :
    (start.steps events).tables.served ∈ start.lineage events ∧
      (start.steps events).tables.served =
        (start.record installed events).getLast?.getD start.tables.served ∧
      start.record installed events ++ (start.steps events).tables.waiting =
        (start.record made events).map Revision.table ∧
      (∀ revision ∈ start.record made events, ∃ before words after,
        events = before ++ .report words :: after ∧
          (start.steps before).item = revision.item ∧
          rebuild settings words path revision.item = .ok revision.table) ∧
      (∀ words error,
        rebuild settings words path (start.steps events).item = .error error →
          ((start.steps events).step (.report words)).tables = (start.steps events).tables) ∧
      (∀ call ∈ start.record answered events, ∃ table ∈ start.lineage events,
        ∀ {σ : Type} [WordSource σ] (name : List UInt8),
          ((start.steps events).reply name call : Draw σ Service.Exchange) =
            (Service.Server.of settings table).serve name call.request) ∧
      (settings.mocking.seed.isSome → ∀ revision ∈ start.record made events, ∀ words,
        (·.table) <$> compile settings words path revision.item = .ok revision.table) := by
  rcases start?_eq_ok_iff.mp started with ⟨first, -, begun⟩
  have settings_eq : start.settings = settings := by rw [begun]
  have path_eq : start.path = path := by rw [begun]
  have empty : start.tables.waiting = [] := by rw [begun]
  have idle : start.calls = [] := by rw [begun]
  subst settings_eq path_eq
  have initial : start.Holds (· ∈ start.lineage events) :=
    ⟨List.mem_cons_self, by simp [empty], by simp [idle]⟩
  have conserved := waiting_steps start events
  rw [empty, List.nil_append] at conserved
  refine ⟨(initial.steps fun _ => table_mem_lineage).served, served_steps _ _,
    conserved.symm, fun revision => rebuild_of_mem_made, fun words error failed => ?_,
    fun call call_mem => ?_, fun seeded revision revision_mem words => ?_⟩
  · rcases tables_report _ words with ⟨table, -, succeeded, -, -⟩ | ⟨-, same⟩
    · rw [settings_steps, path_steps, failed] at succeeded
      cases succeeded
    · exact same
  · refine ⟨call.table, ?_, fun name => by simp only [reply, settings_steps]⟩
    exact table_of_mem_answered initial (fun _ => table_mem_lineage) call_mem
  · rcases rebuild_of_mem_made revision_mem with ⟨before, used, after, -, -, succeeded⟩
    rw [map_table_compile, rebuild_of_seeded seeded words used]
    exact succeeded

end Start

/-! ## A document that gets a path -/

/-- A file of a text. -/
def fileOf (text : String) : Option Files.Item := some (.file (Text.encode text))

/-- A document without paths. -/
def bareDocument : Option Files.Item := fileOf "\x7b\x22openapi\x22:\x223.0\x22\x7d"

/-- The document with one path. -/
def pathDocument : Option Files.Item :=
  fileOf ("\x7b\x22openapi\x22:\x223.0\x22,\x22paths\x22:" ++
    "\x7b\x22/new\x22:\x7b\x22get\x22:\x7b\x7d\x7d\x7d\x7d")

/-- Settings with a seed, under which changes are noticed. -/
def watchfulSettings : Settings := { mocking := { seed := some 5 }, reload := { enabled := true } }

/-- The words that a test starts with. -/
def someWords : ChaChaWords := ChaChaWords.ofSeed 0

/-- The document gets a path while a request is under way, and then becomes a text that is none. -/
def swapEvents : List Event :=
  [.watch, .write pathDocument, .accept { method := .get, uri := { path := "/new" } },
    .report someWords, .install, .answer 0, .write (fileOf "none"), .report someWords]

theorem exists_ok_of_map_toOption {ε α β : Type} {result : Except ε α} {f : α → β} {value : β}
    (known : result.toOption.map f = some value) :
    ∃ found, result = .ok found ∧ f found = value := by
  cases result with
  | error error => cases known
  | ok found => exact ⟨found, rfl, Option.some.inj known⟩

theorem Run.reload_in_order_swap :
    ∃ start, start? watchfulSettings someWords "api.json" bareDocument = .ok start ∧
      watchfulSettings.mocking.seed.isSome ∧
      (start.steps swapEvents).tables.served.size = 2 ∧
      (start.record answered swapEvents).map (·.table.size) = [1] ∧
      start.record installed swapEvents ++ (start.steps swapEvents).tables.waiting =
        (start.record made swapEvents).map Revision.table ∧
      ∀ revision ∈ start.record made swapEvents, ∀ words,
        (·.table) <$> compile watchfulSettings words "api.json" revision.item =
          .ok revision.table := by
  have known : (start? watchfulSettings someWords "api.json" bareDocument).toOption.map
      (fun start => ((start.steps swapEvents).tables.served.size,
        (start.record answered swapEvents).map (·.table.size))) = some (2, [1]) := by
    decide +kernel
  rcases exists_ok_of_map_toOption known with ⟨start, started, sizes⟩
  rcases Prod.mk.inj sizes with ⟨size, answered_size⟩
  rcases reload_in_order started swapEvents with ⟨-, -, conserved, -, -, -, seeded⟩
  exact ⟨start, started, rfl, size, answered_size, conserved, seeded rfl⟩

end ApiStub.Running
