import ApiStub.CommandLine.Command
import ApiStub.Proofs.Traversal

/-!
# Flags over a file

The settings to serve with have the values of the flags that are given, and the values of the file
in all other fields. `Merges` says so field by field, and there is exactly one way to merge.

Settings are checked twice: those of the file before any flag replaces them, and then those to
serve with. Of the fields that flags replace, a check looks at the number of threads only, and asks
only whether it is zero. So whatever passes the second check has passed the first one, unless the
file asks for no threads: no flag makes up for that.
-/

namespace ApiStub

-- Floats can be compared for identity, so settings can too.
deriving instance DecidableEq for Mock.Policy, Config.Mocking, Config.Settings, Config.Problem

namespace Config

/-! ## What is checked -/

@[simp]
theorem mem_problemIf {condition : Bool} {problem other : Problem} :
    other ∈ problemIf condition problem ↔ condition = true ∧ other = problem := by
  rw [problemIf]
  split
  case isTrue holds => simp [holds]
  case isFalse fails => simp [fails]

namespace Settings

variable {settings : Settings}

theorem noWorkers_mem_problems : .noWorkers ∈ settings.problems ↔ settings.server.workers = 0 := by
  simp [problems]

theorem workers_ne_zero (sound : settings.problems = []) : settings.server.workers ≠ 0 := by
  rw [Ne, ← noWorkers_mem_problems, sound]
  exact List.not_mem_nil

/-- Of the server the checks see nothing but whether it has threads. -/
theorem problems_congr {first second : Settings}
    (policy : first.mocking.policy = second.mocking.policy)
    (idle : first.server.workers = 0 ↔ second.server.workers = 0)
    (openapi : first.openapi = second.openapi) (metrics : first.metrics = second.metrics) :
    first.problems = second.problems := by
  have workers : (first.server.workers == 0) = (second.server.workers == 0) := by
    rw [Bool.eq_iff_iff, beq_iff_eq, beq_iff_eq, idle]
  rw [problems, problems, policy, workers, openapi, metrics]

theorem problems_default : ({} : Settings).problems = [] := by decide +kernel

theorem check_of_sound (sound : settings.problems = []) : settings.check = .ok settings := by
  rw [check, sound]
  rfl

theorem check_of_unsound (unsound : settings.problems ≠ []) :
    settings.check = .error (.invalid settings.problems) := by
  rw [check, if_neg]
  rwa [List.isEmpty_iff]

theorem check_eq_ok_iff {result : Settings} :
    settings.check = .ok result ↔ settings.problems = [] ∧ result = settings := by
  by_cases sound : settings.problems = []
  · rw [check_of_sound sound, Except.ok.injEq, and_iff_right sound, eq_comm]
  · simp [check_of_unsound sound, sound]

/-- The settings that a file gives, whether they make sense or not. Without a file they are the
defaults. -/
def written? (file : Option (Option (List UInt8))) : Option Settings :=
  match file with
  | none => some {}
  | some file => (file.bind Text.decode?).bind fun source => (Toml.parse? source).bind ofToml?

theorem ofFile_of_written {file : Option (Option (List UInt8))}
    (written : written? file = some settings) : ofFile file = settings.check := by
  cases file with
  | none =>
      rw [← Option.some.inj written, check_of_sound problems_default]
      rfl
  | some file =>
      rcases Option.bind_eq_some_iff.mp written with ⟨source, decoded, read⟩
      have parsed : parse source = settings.check := by rw [parse, read]
      rw [ofFile, load, decoded]
      exact parsed

end Settings

end Config

namespace CommandLine

open Config (Settings)

/-! ## Replaced fields

A flag gives a value for a field, which may have been empty, or it is a switch that can only be
turned on.
-/

section

variable {α : Type} {flag : Option α} {switch : Bool}

theorem getD_congr {first second : α} (same : flag = none → first = second) :
    flag.getD first = flag.getD second := by
  cases flag with
  | none => exact same rfl
  | some given => rfl

theorem getD_eq_self {value : α} (shown : ∀ given, flag = some given → value = given) :
    flag.getD value = value := by
  cases flag with
  | none => rfl
  | some given => exact (shown given rfl).symm

theorem orElse_congr {first second : Option α} (same : flag = none → first = second) :
    (flag <|> first) = (flag <|> second) := by
  cases flag with
  | none => exact same rfl
  | some given => rfl

theorem orElse_eq_self {value : Option α}
    (shown : ∀ given, flag = some given → value = some given) : (flag <|> value) = value := by
  cases flag with
  | none => rfl
  | some given => exact (shown given rfl).symm

theorem or_congr_of_false {first second : Bool} (same : switch = false → first = second) :
    (switch || first) = (switch || second) := by
  cases switch with
  | false => exact same rfl
  | true => rfl

theorem or_eq_self {value : Bool} (shown : switch = true → value = true) :
    (switch || value) = value := by
  cases switch with
  | false => rfl
  | true => exact (shown rfl).symm

end

namespace ServeOptions

/-- Settings have the values of all flags that are given. -/
structure ShownBy (options : ServeOptions) (settings : Settings) : Prop where
  host : ∀ host, options.host = some host → settings.server.host = host
  port : ∀ port, options.port = some port → settings.server.port = port
  workers : ∀ workers, options.workers = some workers → settings.server.workers = workers
  live : options.live = true → settings.mocking.live = true
  seed : ∀ seed, options.seed = some seed → settings.mocking.seed = some seed
  watch : options.watch = true → settings.reload.enabled = true

/-- Settings differ in nothing but fields that a flag is given for. -/
structure AgreeOutside (options : ServeOptions) (first second : Settings) : Prop where
  host : options.host = none → first.server.host = second.server.host
  port : options.port = none → first.server.port = second.server.port
  workers : options.workers = none → first.server.workers = second.server.workers
  requestTimeout : first.server.requestTimeout = second.server.requestTimeout
  policy : first.mocking.policy = second.mocking.policy
  live : options.live = false → first.mocking.live = second.mocking.live
  seed : options.seed = none → first.mocking.seed = second.mocking.seed
  openapi : first.openapi = second.openapi
  logging : first.logging = second.logging
  metrics : first.metrics = second.metrics
  watch : options.watch = false → first.reload.enabled = second.reload.enabled

/-- Settings have the values of the flags where flags are given, and those of other settings
everywhere else. -/
structure Merges (options : ServeOptions) (settings merged : Settings) : Prop where
  shown : options.ShownBy merged
  kept : options.AgreeOutside settings merged

variable {options : ServeOptions} {settings first second : Settings}

theorem merges_apply (options : ServeOptions) (settings : Settings) :
    options.Merges settings (options.apply settings) where
  shown := by constructor <;> simp +contextual [apply]
  kept := by constructor <;> simp +contextual [apply]

theorem apply_congr (agree : options.AgreeOutside first second) :
    options.apply first = options.apply second := by
  have host := getD_congr agree.host
  have port := getD_congr agree.port
  have workers := getD_congr agree.workers
  have live := or_congr_of_false agree.live
  have seed := orElse_congr agree.seed
  have watch := or_congr_of_false agree.watch
  simp only [apply, host, port, workers, live, seed, watch, agree.requestTimeout, agree.policy,
    agree.openapi, agree.logging, agree.metrics]

theorem apply_eq_self (shown : options.ShownBy settings) : options.apply settings = settings := by
  have host := getD_eq_self shown.host
  have port := getD_eq_self shown.port
  have workers := getD_eq_self shown.workers
  have live := or_eq_self shown.live
  have seed := orElse_eq_self shown.seed
  have watch := or_eq_self shown.watch
  simp only [apply, host, port, workers, live, seed, watch]

/-- There is exactly one way to merge. -/
theorem merges_iff {merged : Settings} :
    options.Merges settings merged ↔ merged = options.apply settings := by
  constructor
  · intro merges
    rw [apply_congr merges.kept, apply_eq_self merges.shown]
  · rintro rfl
    exact merges_apply options settings

/-! ## Both checks -/

theorem AgreeOutside.problems_eq (agree : options.AgreeOutside first second)
    (idle : first.server.workers = 0 ↔ second.server.workers = 0) :
    first.problems = second.problems :=
  Settings.problems_congr agree.policy idle agree.openapi agree.metrics

/-- What passes the second check has passed the first one, if the file asks for threads. -/
theorem problems_eq_nil_of_apply (sound : (options.apply settings).problems = [])
    (threads : settings.server.workers ≠ 0) : settings.problems = [] := by
  have kept := (merges_apply options settings).kept
  -- The settings to serve with have threads too, since they passed.
  rw [kept.problems_eq (iff_of_false threads (Settings.workers_ne_zero sound)), sound]

section

variable {file : Option (Option (List UInt8))}

theorem settings_of_written (written : Settings.written? file = some settings) :
    options.settings file =
      settings.check >>= fun settings => (options.apply settings).check := by
  rw [ServeOptions.settings, Settings.ofFile_of_written written]

theorem settings_of_unsound (written : Settings.written? file = some settings)
    (unsound : settings.problems ≠ []) :
    options.settings file = .error (.invalid settings.problems) := by
  rw [settings_of_written written, Settings.check_of_unsound unsound]
  rfl

theorem settings_of_sound (written : Settings.written? file = some settings)
    (sound : settings.problems = []) :
    options.settings file = (options.apply settings).check := by
  rw [settings_of_written written, Settings.check_of_sound sound]
  rfl

theorem settings_eq_ok_iff (written : Settings.written? file = some settings) {result : Settings} :
    options.settings file = .ok result ↔
      options.Merges settings result ∧ result.problems = [] ∧ settings.server.workers ≠ 0 := by
  constructor
  · intro served
    rw [settings_of_written written] at served
    rcases bind_eq_ok_iff.mp served with ⟨checked, passed, passedAgain⟩
    rcases Settings.check_eq_ok_iff.mp passed with ⟨soundFile, rfl⟩
    rcases Settings.check_eq_ok_iff.mp passedAgain with ⟨sound, rfl⟩
    exact ⟨merges_apply options checked, sound, Settings.workers_ne_zero soundFile⟩
  · rintro ⟨merges, sound, threads⟩
    rw [merges_iff.mp merges] at sound ⊢
    rw [settings_of_sound written (problems_eq_nil_of_apply sound threads)]
    exact Settings.check_of_sound sound

theorem settings_congr {other : Option (Option (List UInt8))}
    (written : Settings.written? file = some first)
    (writtenOther : Settings.written? other = some second)
    (agree : options.AgreeOutside first second)
    (idle : first.server.workers = 0 ↔ second.server.workers = 0) :
    options.settings file = options.settings other := by
  have problems := agree.problems_eq idle
  by_cases sound : first.problems = []
  · rw [settings_of_sound written sound, settings_of_sound writtenOther (problems ▸ sound),
      apply_congr agree]
  · rw [settings_of_unsound written sound, settings_of_unsound writtenOther (problems ▸ sound),
      problems]

end

/-- There is exactly one way to put the flags over what a file gives. What results is served with if
and only if it makes sense and the file asks for threads itself. Two files that differ in nothing
but fields with flags come to the same, errors included, unless one of them asks for threads and the
other does not. -/
theorem flags_override_file (options : ServeOptions) {file : Option (Option (List UInt8))}
    {settings : Settings} (written : Settings.written? file = some settings) :
    (∃! merged, options.Merges settings merged) ∧
    (∀ result, options.settings file = .ok result ↔
      options.Merges settings result ∧ result.problems = [] ∧ settings.server.workers ≠ 0) ∧
    (∀ other otherSettings, Settings.written? other = some otherSettings →
      options.AgreeOutside settings otherSettings →
      (settings.server.workers = 0 ↔ otherSettings.server.workers = 0) →
      options.settings file = options.settings other) := by
  refine ⟨⟨options.apply settings, merges_apply options settings, ?_⟩, ?_, ?_⟩
  · exact fun _ merges => merges_iff.mp merges
  · exact fun _ => settings_eq_ok_iff written
  · exact fun _ _ writtenOther agree idle => settings_congr written writtenOther agree idle

/-- A file that asks for so many threads. -/
def threadsFile (workers : Nat) : Option (Option (List UInt8)) :=
  some (some (Text.encode ("[server]\nrequest_timeout_secs = 5\nworkers = " ++
    toString workers ++ "\n\n[mocking]\nmax_items = 2\nseed = 7\n")))

/-- What that file gives. -/
def threadsSettings (workers : Nat) : Settings where
  server := { workers, requestTimeout := 5 }
  mocking := { policy := { maxItems := 2 }, seed := some 7 }

/-- All flags but the one for the host. -/
def manyFlags : ServeOptions :=
  { spec := "api.json", config := some "mock.toml", port := some 0, workers := some 2, live := true,
    seed := some 42, watch := true }

/-- What the flags make of those files. -/
def threadsMerged : Settings where
  server := { port := 0, workers := 2, requestTimeout := 5 }
  mocking := { policy := { maxItems := 2 }, live := true, seed := some 42 }
  reload := { enabled := true }

theorem written_threadsFile : ∀ workers ∈ [0, 1, 8],
    Settings.written? (threadsFile workers) = some (threadsSettings workers) := by
  decide +kernel

theorem merges_threadsSettings (workers : Nat) :
    manyFlags.Merges (threadsSettings workers) threadsMerged :=
  merges_iff.mpr rfl

theorem agreeOutside_threadsSettings (workers other : Nat) :
    manyFlags.AgreeOutside (threadsSettings workers) (threadsSettings other) := by
  constructor <;> simp [threadsSettings, manyFlags]

theorem problems_threadsMerged : threadsMerged.problems = [] := by decide +kernel

theorem flags_override_file_threads :
    Settings.written? (threadsFile 8) = some (threadsSettings 8) ∧
    (manyFlags.Merges (threadsSettings 8) threadsMerged ∧ threadsMerged.problems = [] ∧
      (threadsSettings 8).server.workers ≠ 0 ∧
      manyFlags.settings (threadsFile 8) = .ok threadsMerged) ∧
    (Settings.written? (threadsFile 1) = some (threadsSettings 1) ∧
      manyFlags.AgreeOutside (threadsSettings 8) (threadsSettings 1) ∧
      ((threadsSettings 8).server.workers = 0 ↔ (threadsSettings 1).server.workers = 0) ∧
      manyFlags.settings (threadsFile 8) = manyFlags.settings (threadsFile 1)) := by
  have written := written_threadsFile 8 (by decide)
  have writtenOther := written_threadsFile 1 (by decide)
  have merges := merges_threadsSettings 8
  have agree := agreeOutside_threadsSettings 8 1
  have threads : (threadsSettings 8).server.workers ≠ 0 := by decide
  have idle : (threadsSettings 8).server.workers = 0 ↔ (threadsSettings 1).server.workers = 0 := by
    decide
  rcases flags_override_file manyFlags written with ⟨-, served, same⟩
  refine ⟨written, ⟨merges, problems_threadsMerged, threads, ?_⟩, writtenOther, agree, idle, ?_⟩
  · exact (served threadsMerged).mpr ⟨merges, problems_threadsMerged, threads⟩
  · exact same _ _ writtenOther agree idle

/-- The settings to serve with make sense, and there are none: the file asks for no threads, which
the flag was to make up for. With a file that asks for threads the same flags are served. -/
theorem refused_of_noWorkers :
    (Settings.written? (threadsFile 0) = some (threadsSettings 0) ∧
      manyFlags.Merges (threadsSettings 0) threadsMerged ∧ threadsMerged.problems = [] ∧
      manyFlags.settings (threadsFile 0) = .error (.invalid [.noWorkers])) ∧
    (Settings.written? (threadsFile 8) = some (threadsSettings 8) ∧
      manyFlags.AgreeOutside (threadsSettings 0) (threadsSettings 8) ∧
      manyFlags.settings (threadsFile 8) = .ok threadsMerged) := by
  have writtenIdle := written_threadsFile 0 (by decide)
  have written := written_threadsFile 8 (by decide)
  have problems : (threadsSettings 0).problems = [.noWorkers] := by decide +kernel
  have unsound : (threadsSettings 0).problems ≠ [] := by rw [problems]; exact List.cons_ne_nil _ _
  refine ⟨⟨writtenIdle, merges_threadsSettings 0, problems_threadsMerged, ?_⟩, written,
    agreeOutside_threadsSettings 0 8, ?_⟩
  · rw [settings_of_unsound writtenIdle unsound, problems]
  · exact (settings_eq_ok_iff written).mpr
      ⟨merges_threadsSettings 8, problems_threadsMerged, by decide⟩

end ServeOptions

end CommandLine

end ApiStub
