import ApiStub.Random.Uniform

/-!
# Draws that are answered

A number can be asked for from an empty range. Such a draw is refused, and its run has no result.
The statements here are about the runs that end without a refusal, and about how a refusal comes
about: `Answerable` says that there is none, `Careful` that there is none under a condition, and
`Refuses` that there always is one.

Nothing takes back a refusal, so in a run that ends without one every draw on the way was answered.
`Completes` says so of a draw, together with a property of its results. It is a case of `YieldsIn`,
where the state at the end has a part, and so is `Yields`, where it has none; what holds of both is
stated of `YieldsIn`.
-/

namespace ApiStub.Draw

variable {σ α β : Type}

/-! ## Results of runs that end well -/

section YieldsIn

variable {good : σ → Prop} {p : α → Prop} {q : β → Prop}

/-- A run that ends in a good state began in one, and its result satisfies `p`. -/
def YieldsIn (good : σ → Prop) (draw : Draw σ α) (p : α → Prop) : Prop :=
  ∀ source, good (draw.run source).2 → good source ∧ p (draw.run source).1

theorem yieldsIn_pure {value : α} (holds : p value) : (pure value : Draw σ α).YieldsIn good p :=
  fun _ well => ⟨well, holds⟩

theorem YieldsIn.bind {draw : Draw σ α} {next : α → Draw σ β} (first : draw.YieldsIn good p)
    (rest : ∀ value, (next value).YieldsIn good fun result => p value → q result) :
    (draw >>= next).YieldsIn good q := by
  intro source well
  rcases rest _ _ well with ⟨between, imp⟩
  rcases first source between with ⟨before, holds⟩
  exact ⟨before, imp holds⟩

theorem YieldsIn.map {draw : Draw σ α} {f : α → β} (first : draw.YieldsIn good p)
    (imp : ∀ value, p value → q (f value)) : (f <$> draw).YieldsIn good q := by
  intro source well
  rcases first source well with ⟨before, holds⟩
  exact ⟨before, imp _ holds⟩

theorem YieldsIn.imp {draw : Draw σ α} {p q : α → Prop} (first : draw.YieldsIn good p)
    (imp : ∀ value, p value → q value) : draw.YieldsIn good q := by
  intro source well
  rcases first source well with ⟨before, holds⟩
  exact ⟨before, imp _ holds⟩

theorem yieldsIn_true_iff {draw : Draw σ α} :
    draw.YieldsIn (fun _ => True) p ↔ draw.Yields p := by
  simp [YieldsIn, Yields]

end YieldsIn

/-! ## Runs with a result -/

theorem result?_eq_some_iff {draw : Draw (Watched σ) α} {words : σ} {value : α} :
    draw.result? words = some value ↔
      (draw.run { words }).2.refused = false ∧ (draw.run { words }).1 = value := by
  change (if (draw.run { words }).2.refused then none else some (draw.run { words }).1) = _ ↔ _
  split
  · rename_i refused
    simp [refused]
  · rename_i unrefused
    simp [unrefused]

theorem result?_eq_none_iff {draw : Draw (Watched σ) α} {words : σ} :
    draw.result? words = none ↔ (draw.run { words }).2.refused = true := by
  rw [Option.eq_none_iff_forall_ne_some]
  simp [result?_eq_some_iff]

/-- What is drawn in a run without a refusal is the result of the draw. -/
theorem result?_of_unrefused {draw : Draw (Watched σ) α} {source : Watched σ}
    (before : source.refused = false) (after : (draw.run source).2.refused = false) :
    draw.result? source.words = some (draw.run source).1 := by
  rcases source with ⟨words, refused⟩
  dsimp only at before
  subst before
  exact result?_eq_some_iff.mpr ⟨after, rfl⟩

/-- A run without a refusal at its end had none at its beginning, and its result satisfies `p`. -/
def Completes (draw : Draw (Watched σ) α) (p : α → Prop) : Prop :=
  draw.YieldsIn (fun source => source.refused = false) p

theorem Completes.of_result? {draw : Draw (Watched σ) α} {p : α → Prop}
    (completes : draw.Completes p) {words : σ} {value : α}
    (result : draw.result? words = some value) : p value := by
  rcases result?_eq_some_iff.mp result with ⟨unrefused, rfl⟩
  exact (completes _ unrefused).2

/-! ## Draws without a refusal -/

section Answered

variable {fine : Prop} {draw : Draw (Watched σ) α} {next : α → Draw (Watched σ) β}

/-- No number is asked for from an empty range, whatever the words are. -/
def Answerable (draw : Draw (Watched σ) α) : Prop :=
  ∀ source, (draw.run source).2.refused = source.refused

theorem answerable_pure (value : α) : (pure value : Draw (Watched σ) α).Answerable :=
  fun _ => rfl

theorem Answerable.bind (first : draw.Answerable) (rest : ∀ value, (next value).Answerable) :
    (draw >>= next).Answerable := by
  intro source
  exact (rest _ _).trans (first source)

theorem Answerable.map (first : draw.Answerable) (f : α → β) : (f <$> draw).Answerable :=
  fun source => first source

theorem Answerable.isSome_result? (answerable : draw.Answerable) (words : σ) :
    (draw.result? words).isSome = true :=
  Option.isSome_iff_exists.mpr ⟨_, result?_eq_some_iff.mpr ⟨answerable { words }, rfl⟩⟩

/-- A refusal is never forgotten, and as long as a condition holds there is none. -/
structure Careful (fine : Prop) (draw : Draw (Watched σ) α) : Prop where
  keeps : ∀ source, source.refused = true → (draw.run source).2.refused = true
  answers : fine → draw.Answerable

theorem Answerable.careful (answerable : draw.Answerable) : draw.Careful fine where
  keeps source refused := (answerable source).trans refused
  answers _ := answerable

theorem careful_pure (value : α) : (pure value : Draw (Watched σ) α).Careful fine :=
  (answerable_pure value).careful

namespace Careful

theorem bind (first : draw.Careful fine) (rest : ∀ value, (next value).Careful fine) :
    (draw >>= next).Careful fine where
  keeps source refused := (rest _).keeps _ (first.keeps source refused)
  answers holds := (first.answers holds).bind fun value => (rest value).answers holds

theorem map (first : draw.Careful fine) (f : α → β) : (f <$> draw).Careful fine where
  keeps source refused := first.keeps source refused
  answers holds := (first.answers holds).map f

theorem imp {other : Prop} (careful : draw.Careful fine) (weaken : other → fine) :
    draw.Careful other where
  keeps := careful.keeps
  answers holds := careful.answers (weaken holds)

/-- Without a refusal at the end there was none at the beginning. -/
theorem unrefused (careful : draw.Careful fine) {source : Watched σ}
    (answered : (draw.run source).2.refused = false) : source.refused = false := by
  rcases before : source.refused with _ | _
  · rfl
  · rw [careful.keeps source before] at answered
    cases answered

/-- What is drawn in a run without a refusal is the result of the draw. -/
theorem completes (careful : draw.Careful fine) :
    draw.Completes fun value => ∃ words : σ, draw.result? words = some value := by
  intro source unrefused
  have before := careful.unrefused unrefused
  exact ⟨before, source.words, result?_of_unrefused before unrefused⟩

end Careful

end Answered

/-! ## Draws with a refusal -/

section Refused

variable {fine : Prop} {draw : Draw (Watched σ) α} {next : α → Draw (Watched σ) β}

/-- Whatever the words are, a number is asked for from an empty range. -/
def Refuses (draw : Draw (Watched σ) α) : Prop :=
  ∀ source, (draw.run source).2.refused = true

/-- A draw that never forgets a refusal and has no result ends in one, wherever it begins. -/
theorem Careful.refuses (careful : draw.Careful fine)
    (lost : ∀ words : σ, draw.result? words = none) : draw.Refuses := by
  rintro ⟨words, refused⟩
  cases refused with
  | false => exact result?_eq_none_iff.mp (lost words)
  | true => exact careful.keeps _ rfl

namespace Refuses

theorem bind (first : draw.Refuses) (rest : ∀ value, (next value).Careful False) :
    (draw >>= next).Refuses :=
  fun source => (rest _).keeps _ (first source)

theorem bind_of_yields {p : α → Prop} (first : draw.Yields p)
    (rest : ∀ value, p value → (next value).Refuses) : (draw >>= next).Refuses :=
  fun source => rest _ (first source) _

theorem map (refuses : draw.Refuses) (f : α → β) : (f <$> draw).Refuses :=
  fun source => refuses source

theorem result?_eq_none (refuses : draw.Refuses) (words : σ) : draw.result? words = none :=
  result?_eq_none_iff.mpr (refuses { words })

end Refuses

end Refused

/-! ## Numbers -/

section Numbers

variable [WordSource σ] {fine : Prop}

theorem answerable_word (width : Width) : (word width : Draw (Watched σ) Nat).Answerable := by
  intro source
  cases width <;> rfl

theorem answerable_belowWithin (width : Width) (count rounds : Nat) :
    (belowWithin width count rounds : Draw (Watched σ) Nat).Answerable := by
  induction rounds with
  | zero => exact answerable_pure 0
  | succ rounds ih =>
      apply (answerable_word width).bind
      intro word
      dsimp only
      split
      · exact answerable_pure _
      · exact ih

theorem answerable_below (width : Width) {count : Nat} (positive : 0 < count) :
    (below width count : Draw (Watched σ) Nat).Answerable := by
  rw [below, if_neg (by simpa using Nat.ne_of_gt positive)]
  split
  · exact answerable_word width
  · exact answerable_belowWithin width count maxRounds

theorem answerable_natBetween (width : Width) {least greatest : Nat} (ordered : least ≤ greatest) :
    (natBetween width least greatest : Draw (Watched σ) Nat).Answerable := by
  rw [natBetween, if_neg (Nat.not_lt.mpr ordered)]
  exact (answerable_below width (Nat.succ_pos _)).map _

theorem careful_below (width : Width) {count : Nat} (positive : fine → 0 < count) :
    (below width count : Draw (Watched σ) Nat).Careful fine := by
  rcases Nat.eq_zero_or_pos count with rfl | some
  · refine ⟨fun source _ => rfl, fun holds => absurd (positive holds) (Nat.lt_irrefl 0)⟩
  · exact (answerable_below width some).careful

theorem refuses_natBetween (width : Width) {least greatest : Nat} (crossed : greatest < least) :
    (natBetween width least greatest : Draw (Watched σ) Nat).Refuses := by
  intro source
  rw [natBetween, if_pos crossed]
  rfl

theorem careful_natBetween (width : Width) {least greatest : Nat}
    (ordered : fine → least ≤ greatest) :
    (natBetween width least greatest : Draw (Watched σ) Nat).Careful fine := by
  rcases Nat.lt_or_ge greatest least with crossed | inOrder
  · exact ⟨fun source _ => refuses_natBetween width crossed source,
      fun holds => absurd (ordered holds) (Nat.not_le.mpr crossed)⟩
  · exact (answerable_natBetween width inOrder).careful

theorem careful_choose? (values : List α) :
    (choose? values : Draw (Watched σ) (Option α)).Careful fine := by
  unfold choose?
  split
  · exact careful_pure none
  · rename_i nonempty
    exact (answerable_below .bits32 (List.length_pos_iff.mpr nonempty)).careful.map _

theorem careful_chance (p : Float) : (chance p : Draw (Watched σ) Bool).Careful fine := by
  unfold chance
  split
  · exact careful_pure true
  · exact (answerable_word .bits64).careful.map _

omit [WordSource σ] in
theorem careful_repeated {draw : Draw (Watched σ) α} (each : draw.Careful fine) (count : Nat)
    (done : List α) : (repeated draw count done).Careful fine := by
  induction count generalizing done with
  | zero => exact careful_pure done.reverse
  | succ count ih => exact each.bind fun value => ih (value :: done)

omit [WordSource σ] in
theorem careful_times {draw : Draw (Watched σ) α} (each : draw.Careful fine) (count : Nat) :
    (times count draw).Careful fine :=
  careful_repeated each count []

end Numbers

end ApiStub.Draw
