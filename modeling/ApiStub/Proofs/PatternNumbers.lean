import ApiStub.Pattern.Sample
import ApiStub.Proofs.AnsweredDraws

/-!
# Numbers asked for by patterns

A text is drawn from a pattern by asking for numbers: which branch of a choice, how often a
repetition, which character of a set. Such a number is never asked for from an empty range, as long
as every choice has a branch and every repetition has its counts in order.
-/

namespace ApiStub.Pattern

open Draw (Careful careful_pure)

/-! ## Drawing from a pattern -/

/-- The pattern itself or one that stands in it. -/
inductive Part : Pattern → Pattern → Prop where
  | whole (pattern : Pattern) : Part pattern pattern
  | body {body part : Pattern} {least greatest : Nat} (below : Part body part) :
      Part (.repeated body least greatest) part
  | piece {branches : List (List Pattern)} {branch : List Pattern} {piece part : Pattern}
      (branch_mem : branch ∈ branches) (piece_mem : piece ∈ branch) (below : Part piece part) :
      Part (.choice branches) part

/-- The pattern and all that stand in it satisfy a condition. -/
def Every (p : Pattern → Prop) (pattern : Pattern) : Prop := ∀ part, pattern.Part part → p part

/-- The number that is asked for at the root is one of a range that is not empty. -/
def HasNumber : Pattern → Prop
  | repeated _ least greatest => least ≤ greatest
  | choice branches => branches ≠ []
  | _ => True

section Every

variable {p : Pattern → Prop}

theorem every_of_leaf {leaf : Pattern} (holds : p leaf)
    (bare : ∀ part, leaf.Part part → part = leaf) : leaf.Every p := by
  intro part below
  rw [bare part below]
  exact holds

theorem every_repeated_iff {body : Pattern} {least greatest : Nat} :
    Every p (.repeated body least greatest) ↔ p (.repeated body least greatest) ∧ body.Every p := by
  constructor
  · intro every
    exact ⟨every _ (.whole _), fun part below => every part (.body below)⟩
  · rintro ⟨root, inner⟩ part below
    cases below with
    | whole => exact root
    | body below => exact inner part below

theorem every_choice_iff {branches : List (List Pattern)} :
    Every p (.choice branches) ↔
      p (.choice branches) ∧ ∀ branch ∈ branches, ∀ piece ∈ branch, piece.Every p := by
  constructor
  · intro every
    refine ⟨every _ (.whole _), ?_⟩
    intro branch branch_mem piece piece_mem part below
    exact every part (.piece branch_mem piece_mem below)
  · rintro ⟨root, inner⟩ part below
    cases below with
    | whole => exact root
    | piece branch_mem piece_mem below => exact inner _ branch_mem _ piece_mem part below

end Every

section Drawing

variable {σ : Type} [WordSource σ] {fine : Prop}

theorem answerable_sample (set : CharSet) :
    (set.sample : Draw (Watched σ) (Option Char)).Answerable := by
  simp only [CharSet.sample]
  split
  · split
    · exact Draw.answerable_pure none
    · rename_i candidates nonempty
      exact (Draw.answerable_below .bits64 (List.length_pos_iff.mpr nonempty)).map _
  · split
    · exact Draw.answerable_pure none
    · rename_i nonempty
      exact (Draw.answerable_below .bits32 (Nat.pos_of_ne_zero (by simpa using nonempty))).map _

omit [WordSource σ] in
theorem careful_andThen {first second : Emitter (Watched σ)}
    (one : ∀ done, (first done).Careful fine) (other : ∀ done, (second done).Careful fine)
    (done : List Char) : (andThen first second done).Careful fine := by
  apply (one done).bind
  intro result
  cases result with
  | none => exact careful_pure none
  | some done => exact other done

omit [WordSource σ] in
theorem careful_iterate {step : Emitter (Watched σ)} (each : ∀ done, (step done).Careful fine)
    (count : Nat) (done : List Char) : (iterate step count done).Careful fine := by
  induction count generalizing done with
  | zero => exact careful_pure (some done)
  | succ count ih =>
      apply (each done).bind
      intro result
      cases result with
      | none => exact careful_pure none
      | some done => exact ih done

mutual

theorem careful_emit : (pattern : Pattern) → (fine → pattern.Every HasNumber) →
    ∀ done, (pattern.emit done : Draw (Watched σ) (Option (List Char))).Careful fine
  | .empty, _, done => careful_pure (some done)
  | .literal c, _, done => careful_pure (some (c :: done))
  | .oneOf set, _, done => by
    rw [emit]
    apply (answerable_sample set).careful.bind
    intro drawn
    cases drawn with
    | none => exact careful_pure none
    | some c => exact careful_pure (some (c :: done))
  | .choice branches, every, done => by
    rw [emit]
    have nonempty : fine → 0 < branches.length := fun holds =>
      List.length_pos_iff.mpr (every_choice_iff.mp (every holds)).1
    apply (Draw.careful_below .bits64 nonempty).bind
    intro index
    exact careful_emitBranch branches (fun holds => (every_choice_iff.mp (every holds)).2) index
      done
  | .repeated body least greatest, every, done => by
    rw [emit]
    apply (Draw.careful_natBetween .bits32
      fun holds => (every_repeated_iff.mp (every holds)).1).bind
    intro count
    exact careful_iterate
      (careful_emit body fun holds => (every_repeated_iff.mp (every holds)).2) count done

theorem careful_emitBranch : (branches : List (List Pattern)) →
    (fine → ∀ branch ∈ branches, ∀ piece ∈ branch, piece.Every HasNumber) → ∀ index done,
    (emitBranch branches index done : Draw (Watched σ) (Option (List Char))).Careful fine
  | [], _, _, _ => careful_pure none
  | branch :: _, each, 0, done => by
    rw [emitBranch]
    exact careful_emitAll branch (fun holds => each holds branch List.mem_cons_self) done
  | _ :: rest, each, index + 1, done => by
    rw [emitBranch]
    exact careful_emitBranch rest
      (fun holds branch mem => each holds branch (List.mem_cons_of_mem _ mem)) index done

theorem careful_emitAll : (pieces : List Pattern) →
    (fine → ∀ piece ∈ pieces, piece.Every HasNumber) → ∀ done,
    (emitAll pieces done : Draw (Watched σ) (Option (List Char))).Careful fine
  | [], _, done => careful_pure (some done)
  | first :: rest, each, done => by
    rw [emitAll]
    exact careful_andThen
      (careful_emit first fun holds => each holds first List.mem_cons_self)
      (careful_emitAll rest fun holds piece mem => each holds piece (List.mem_cons_of_mem _ mem))
      done

end

/-- A pattern is drawn from without asking for a number that there is not. -/
theorem answerable_emit (pattern : Pattern) (every : pattern.Every HasNumber) (done : List Char) :
    (pattern.emit done : Draw (Watched σ) (Option (List Char))).Answerable :=
  (careful_emit pattern id done).answers every

theorem careful_attempt (expression : Regex) {pattern : Pattern}
    (every : fine → pattern.Every HasNumber) (attempts : Nat) :
    (attempt expression pattern attempts :
      Draw (Watched σ) (Option (List Char))).Careful fine := by
  induction attempts with
  | zero => exact careful_pure none
  | succ attempts ih =>
      apply ((careful_emit pattern every []).map (Option.map List.reverse)).bind
      intro drawn
      cases drawn with
      | none => exact careful_pure none
      | some text =>
          dsimp only
          split
          · exact careful_pure (some text)
          · exact ih

theorem careful_matching {source : String}
    (every : fine → ∀ pattern, read? source.toList = some pattern → pattern.Every HasNumber) :
    (matching source : Draw (Watched σ) (Option String)).Careful fine := by
  unfold matching
  split
  · rename_i expression pattern _ read
    exact (careful_attempt expression (fun holds => every holds pattern read) candidateLimit).map _
  · exact careful_pure none

/-! ## Patterns that are refused -/

section Refused

variable {expression : Regex} {pattern : Pattern}

end Refused

end Drawing

end ApiStub.Pattern
