import ApiStub.Proofs.BuildLayout
import ApiStub.Proofs.ReloadOrder
import ApiStub.Running.Start

/-!
# How far the served table lags behind the document

Once changes are noticed, the table at the end of the line is one of the document as it stands, or
a change is still to be reported. A document that makes no table changes neither side: whether there
is a table does not depend on the words that bodies are drawn from, so a report that failed is no
reason to expect another.

The start is the gap. The document is compiled first and watched later, and what is written between
the two is noticed by nobody. The served table then stays behind until the next change.
-/

namespace ApiStub.Running

open Config (Settings)
open Route (Table)

/-- Whether a document makes a table does not depend on what bodies are drawn from. -/
theorem exists_rebuild {settings : Settings} {path : String} {item : Option Files.Item}
    {fresh : ChaChaWords} {table : Table}
    (succeeded : rebuild settings fresh path item = .ok table) (other : ChaChaWords) :
    ∃ another, rebuild settings other path item = .ok another := by
  rcases bind_eq_ok_iff.mp succeeded with ⟨description, loaded, built⟩
  have outline := Route.yields_build_outline (σ := ChaChaWords)
    { policy := settings.mocking.policy } description
  have alike := (outline (settings.mocking.words fresh)).trans
    (outline (settings.mocking.words other)).symm
  have another : ∃ found, tableOf settings other description = .ok found := by
    apply (exists_ok_iff_of_map_eq alike).mp
    rcases first : tableOf settings fresh description with error | found
    · rw [first] at built
      cases built
    · exact ⟨found, first⟩
  rcases another with ⟨found, second⟩
  exact ⟨found, bind_eq_ok_iff.mpr ⟨description, loaded, by rw [second]; rfl⟩⟩

/-- The table at the end of the line. -/
def Rotation.latest (rotation : Rotation) : Table :=
  rotation.waiting.getLast?.getD rotation.served

@[simp]
theorem Rotation.latest_install (rotation : Rotation) :
    rotation.install.latest = rotation.latest := by
  rcases rotation with ⟨served, _ | ⟨first, _ | ⟨second, rest⟩⟩⟩ <;> rfl

namespace Run

/-- The table is one of what stands under the path, if that makes one. -/
def Current (run : Run) (table : Table) : Prop :=
  ∀ fresh other, rebuild run.settings fresh run.path run.item = .ok other →
    ∃ words, rebuild run.settings words run.path run.item = .ok table

/-- Changes are noticed, and the last table is current unless one is still to be reported. -/
structure UpToDate (run : Run) : Prop where
  watched : run.watched
  current : run.unreported = false → run.Current run.tables.latest

/-! ## One event -/

theorem upToDate_write {run : Run} (watched : run.watched) (item : Option Files.Item) :
    (run.step (.write item)).UpToDate where
  watched := watched
  current := fun reported => by simp [step, watched] at reported

theorem upToDate_report {run : Run} (watched : run.watched) (fresh : ChaChaWords) :
    (run.step (.report fresh)).UpToDate := by
  rcases succeeded : rebuild run.settings fresh run.path run.item with error | table
  · refine ⟨by simp [step, watched], fun _ words other made => ?_⟩
    simp only [step, watched, if_true] at made
    rcases exists_rebuild made fresh with ⟨another, impossible⟩
    rw [succeeded] at impossible
    cases impossible
  · refine ⟨by simp [step, watched], fun _ _ _ _ => ⟨fresh, ?_⟩⟩
    simp [step, watched, succeeded, Rotation.offer, Rotation.latest]

theorem UpToDate.step {run : Run} (upToDate : run.UpToDate) (event : Event) :
    (run.step event).UpToDate := by
  cases event with
  | write item => exact upToDate_write upToDate.watched item
  | report fresh => exact upToDate_report upToDate.watched fresh
  | install =>
      refine ⟨upToDate.watched, fun reported => ?_⟩
      simpa [Run.step, Current] using upToDate.current reported
  | watch => exact ⟨rfl, upToDate.current⟩
  | accept request => exact ⟨upToDate.watched, upToDate.current⟩
  | answer position => exact ⟨upToDate.watched, upToDate.current⟩

theorem UpToDate.steps {run : Run} (upToDate : run.UpToDate) (events : List Event) :
    (run.steps events).UpToDate := by
  induction events generalizing run with
  | nil => exact upToDate
  | cons event events ih => exact ih (upToDate.step event)

end Run

section Start

variable {settings : Settings} {fresh : ChaChaWords} {path : String} {item : Option Files.Item}
  {start prepared : Run}

end Start

/-! ## A document that gets a path while the server starts -/

end ApiStub.Running
