import ApiStub.Config.Settings
import ApiStub.Random.ChaCha

/-!
# Compiling a description

From what stands under a path to a table that can be served. Bodies are drawn from the seed that
is set, from its start in every compilation, so the same document gives the same table.
-/

namespace ApiStub

/-- The words that bodies are drawn from: those of the seed, or fresh ones without a seed. -/
def Config.Mocking.words (mocking : Config.Mocking) (fresh : ChaChaWords) : ChaChaWords :=
  match mocking.seed with
  | some seed => ChaChaWords.ofSeed seed.toUInt64
  | none => fresh

namespace Running

open Config (Settings)

/-- A description with its table. -/
structure Compilation where
  /-- What is served. -/
  description : Api.Description
  /-- How it is served. -/
  table : Route.Table

/-- Why there is no table. -/
inductive CompileError where
  /-- There is no description. -/
  | load (error : Api.LoadError)
  /-- A template of the description is malformed. -/
  | routes (error : Route.TemplateError)

/-- The error in words, where it has words of its own. -/
def CompileError.message? : CompileError → Option String
  | load error => error.message?
  | routes error => some error.message

/-- The table of a description. -/
def tableOf (settings : Settings) (fresh : ChaChaWords) (description : Api.Description) :
    Except Route.TemplateError Route.Table :=
  ((Route.build { policy := settings.mocking.policy } description).run
    (settings.mocking.words fresh)).1

/-- Compiles what stands under a path. -/
def compile (settings : Settings) (fresh : ChaChaWords) (path : String)
    (item : Option Files.Item) : Except CompileError Compilation := do
  let description ← (Api.load settings.openapi path item).mapError .load
  let table ← (tableOf settings fresh description).mapError .routes
  pure ⟨description, table⟩

end Running

end ApiStub
