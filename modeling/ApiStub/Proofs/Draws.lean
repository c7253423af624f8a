import ApiStub.Proofs.Zero
import ApiStub.Random.Uniform

/-!
# What draws yield

Bounds of the uniform draws, for every source of words. A source may answer anything, so a number
below `count` is bounded by arithmetic alone: an accepted product is the product of a word and
`count`, and its high half is below `count`. The statements hold of every source as well as of
those that a rejecting loop would never leave.
-/

namespace ApiStub

namespace Draw

variable {σ α : Type} [WordSource σ]

theorem Width.words_bits64 : Width.bits64.words = 2 ^ 64 := rfl

theorem Width.words_pos (width : Width) : 0 < width.words := by
  cases width <;> decide

theorem yields_word (width : Width) : (word width : Draw σ Nat).Yields (· < width.words) := by
  intro source
  cases width with
  | bits32 => exact UInt32.toNat_lt _
  | bits64 => exact UInt64.toNat_lt _

theorem yields_belowWithin (width : Width) {count : Nat} (positive : 0 < count) (rounds : Nat) :
    (belowWithin width count rounds : Draw σ Nat).Yields (· < count) := by
  induction rounds with
  | zero => exact yields_pure positive
  | succ rounds ih =>
      refine (yields_word width).bind fun word word_lt => ?_
      dsimp only
      split
      · apply yields_pure
        rw [Nat.div_lt_iff_lt_mul width.words_pos, Nat.mul_comm]
        exact Nat.mul_lt_mul_of_pos_left word_lt positive
      · exact ih

theorem yields_below (width : Width) {count : Nat} (positive : 0 < count) :
    (below width count : Draw σ Nat).Yields (· < count) := by
  rw [below, if_neg (by simpa using positive.ne')]
  split
  · rename_i full
    rw [eq_of_beq full]
    exact yields_word width
  · exact yields_belowWithin width positive maxRounds

theorem yields_natBetween (width : Width) {least greatest : Nat} (ordered : least ≤ greatest) :
    (natBetween width least greatest : Draw σ Nat).Yields
      fun value => least ≤ value ∧ value ≤ greatest := by
  rw [natBetween, if_neg (Nat.not_lt.mpr ordered)]
  refine (yields_below width (Nat.succ_pos _)).map fun offset offset_lt => ?_
  omega

theorem yields_intBetween {least greatest : Int} (ordered : least ≤ greatest)
    (lower : -2 ^ 63 ≤ least) (upper : greatest < 2 ^ 63) :
    (intBetween least greatest : Draw σ Int).Yields
      fun value => least ≤ value ∧ value ≤ greatest := by
  simp only [intBetween]
  split
  · rename_i full
    -- Only the whole range of 64 bits has this many members.
    have count := eq_of_beq full
    rw [Width.words_bits64] at count
    have words : (do let word ← word .bits64; pure (word : Int) : Draw σ Int).Yields
        fun value => 0 ≤ value ∧ value < 2 ^ 64 := by
      refine (yields_word .bits64).bind fun word word_lt => yields_pure ?_
      rw [Width.words_bits64] at word_lt
      omega
    refine words.map fun value bounds => ?_
    split <;> omega
  · refine (yields_below .bits64 (by omega)).map fun offset offset_lt => ?_
    omega

theorem yields_choose? {values : List α} (nonempty : values ≠ []) :
    (choose? values : Draw σ (Option α)).Yields
      fun chosen => ∃ value ∈ values, chosen = some value := by
  unfold choose?
  split
  · exact absurd rfl nonempty
  · refine (yields_below .bits32 (List.length_pos_iff.mpr nonempty)).map fun index index_lt => ?_
    exact ⟨values[index], List.getElem_mem index_lt, List.getElem?_eq_getElem index_lt⟩

theorem chance_of_beq_one {p : Float} (certain : (p == 1.0) = true) :
    (chance p : Draw σ Bool) = pure true := by
  simp only [chance, certain, if_true]

theorem yields_chance_of_beq_zero {p : Float} (never : (p == 0.0) = true) :
    (chance p : Draw σ Bool).Yields (· = false) := by
  rcases Binary64.ofFloat?_of_beq_zero never with ⟨negative, exact_eq⟩
  have threshold_eq : threshold p = 0 := by
    simp only [threshold, exact_eq]
    cases negative <;> rfl
  simp only [chance, Binary64.beq_one_of_beq_zero never, Bool.false_eq_true, if_false]
  refine (yields_word .bits64).map fun word _ => ?_
  simp [threshold_eq]

omit [WordSource σ] in
theorem yields_repeated {draw : Draw σ α} {p : α → Prop} (each : draw.Yields p) (count : Nat)
    (done : List α) (done_holds : ∀ value ∈ done, p value) :
    (repeated draw count done).Yields fun values =>
      values.length = done.length + count ∧ ∀ value ∈ values, p value := by
  induction count generalizing done with
  | zero =>
      refine yields_pure ⟨by simp, ?_⟩
      simpa using done_holds
  | succ count ih =>
      refine each.bind fun value value_holds => ?_
      refine (ih (value :: done) ?_).imp fun values facts => ?_
      · simpa using ⟨value_holds, done_holds⟩
      · refine ⟨?_, facts.2⟩
        rw [facts.1, List.length_cons]
        omega

omit [WordSource σ] in
theorem yields_times {draw : Draw σ α} {p : α → Prop} (each : draw.Yields p) (count : Nat) :
    (times count draw).Yields fun values => values.length = count ∧ ∀ value ∈ values, p value := by
  simpa [times] using yields_repeated each count [] (by simp)

end Draw

end ApiStub
