import ApiStub.Regex.Match
import Mathlib.Data.List.Basic

/-!
# Where matches end

An expression steps from places of a text to places. This file says what is certain to be found:
if an expression reads a word, and the word stands after one of the given places, then the place
after the word is among the ends. Nothing here says that an end is always justified; a search that
found too much would satisfy these statements, one that misses a match would not.

Places of one text are told apart by their index, and the lists that matching works on are in
ascending order. Repetition is the delicate case: the search stops when a step reaches nothing new,
or after as many steps as there are places left. A word that is read in more steps than that is
read in some of them without moving, and those can be left out.
-/

namespace ApiStub.Regex

namespace Place

/-- The place after a word that stands after the place. -/
def after (place : Place) (word : List Char) : Place :=
  ⟨place.index + word.length, word.getLast?.or place.before, place.rest.drop word.length⟩

theorem after_append (place : Place) (first second : List Char) :
    place.after (first ++ second) = (place.after first).after second := by
  simp only [after, List.length_append, List.getLast?_append, List.drop_drop, Nat.add_assoc,
    Option.or_assoc]

/-- Words that stand after a place one after the other. -/
theorem prefix_of_append {place : Place} {first second : List Char}
    (ahead : first ++ second <+: place.rest) :
    first <+: place.rest ∧ second <+: (place.after first).rest := by
  rcases ahead with ⟨remaining, split⟩
  refine ⟨⟨second ++ remaining, by rw [← List.append_assoc, split]⟩, remaining, ?_⟩
  simp [after, ← split]

theorem advance?_eq {set : CharClass} {place : Place} {c : Char} (contained : set.contains c)
    (ahead : [c] <+: place.rest) : place.advance? set = some (place.after [c]) := by
  rcases ahead with ⟨rest, rest_eq⟩
  rw [List.singleton_append] at rest_eq
  simp [advance?, after, ← rest_eq, contained]

theorem index_of_advance? {set : CharClass} {place next : Place}
    (advanced : place.advance? set = some next) : next.index = place.index + 1 := by
  simp only [advance?] at advanced
  split at advanced
  · cases advanced
  · split at advanced
    · cases advanced
      rfl
    · cases advanced

theorem mem_allFrom_iff {index : Nat} {before : Option Char} {text : List Char} {place : Place} :
    place ∈ allFrom index before text ↔ ∃ front, text = front ++ place.rest ∧
      place.index = index + front.length ∧ place.before = front.getLast?.or before := by
  induction text generalizing index before with
  | nil =>
      simp only [allFrom, List.mem_singleton]
      constructor
      · rintro rfl
        exact ⟨[], rfl, rfl, rfl⟩
      · rintro ⟨front, split, index_eq, before_eq⟩
        rcases List.append_eq_nil_iff.mp split.symm with ⟨rfl, rest_eq⟩
        exact Place.ext index_eq before_eq rest_eq
  | cons c text ih =>
      simp only [allFrom, List.mem_cons, ih]
      constructor
      · rintro (rfl | ⟨front, rfl, index_eq, before_eq⟩)
        · exact ⟨[], rfl, rfl, rfl⟩
        · refine ⟨c :: front, rfl, ?_, ?_⟩
          · rw [index_eq, List.length_cons]
            omega
          · rw [before_eq, List.getLast?_cons]
            cases front.getLast? <;> rfl
      · rintro ⟨front, split, index_eq, before_eq⟩
        rcases front with _ | ⟨head, front⟩
        · left
          exact Place.ext index_eq before_eq split.symm
        · right
          rcases List.cons.inj split with ⟨rfl, rfl⟩
          refine ⟨front, rfl, ?_, ?_⟩
          · rw [index_eq, List.length_cons]
            omega
          · rw [before_eq, List.getLast?_cons]
            cases front.getLast? <;> rfl

/-- A place of a text is a way to cut it in two. -/
theorem mem_all_iff {text : List Char} {place : Place} : place ∈ all text ↔
    ∃ front, text = front ++ place.rest ∧ place.index = front.length ∧
      place.before = front.getLast? := by
  simp [all, mem_allFrom_iff]

theorem after_mem_all {text word : List Char} {place : Place} (place_mem : place ∈ all text)
    (ahead : word <+: place.rest) : place.after word ∈ all text := by
  rcases mem_all_iff.mp place_mem with ⟨front, split, index_eq, before_eq⟩
  rcases ahead with ⟨rest, rest_eq⟩
  refine mem_all_iff.mpr ⟨front ++ word, ?_, ?_, ?_⟩
  · rw [split, ← rest_eq, List.append_assoc]
    simp [after, ← rest_eq]
  · rw [List.length_append, ← index_eq]
    rfl
  · rw [List.getLast?_append, ← before_eq]
    rfl

theorem mem_all_of_advance? {text : List Char} {set : CharClass} {place next : Place}
    (place_mem : place ∈ all text) (advanced : place.advance? set = some next) :
    next ∈ all text := by
  simp only [advance?] at advanced
  split at advanced
  · cases advanced
  · rename_i c rest rest_eq
    split at advanced
    · cases advanced
      have ahead : [c] <+: place.rest := ⟨rest, rest_eq.symm⟩
      simpa [after, rest_eq] using after_mem_all place_mem ahead
    · cases advanced

theorem index_add_length {text : List Char} {place : Place} (place_mem : place ∈ all text) :
    place.index + place.rest.length = text.length := by
  rcases mem_all_iff.mp place_mem with ⟨front, split, index_eq, -⟩
  rw [split, List.length_append, index_eq]

/-- The index tells the places of one text apart. -/
theorem eq_of_index_eq {text : List Char} {first second : Place} (first_mem : first ∈ all text)
    (second_mem : second ∈ all text) (same : first.index = second.index) : first = second := by
  rcases mem_all_iff.mp first_mem with ⟨front, split, index_eq, before_eq⟩
  rcases mem_all_iff.mp second_mem with ⟨other, other_split, other_index, other_before⟩
  have lengths : front.length = other.length := by rw [← index_eq, ← other_index, same]
  rcases List.append_inj (split.symm.trans other_split) lengths with ⟨front_eq, rest_eq⟩
  exact Place.ext same (by rw [before_eq, other_before, front_eq]) rest_eq

end Place

/-- Places of a text in ascending order. -/
structure Ascending (text : List Char) (places : List Place) : Prop where
  sorted : places.Pairwise fun first second => first.index < second.index
  within : ∀ place ∈ places, place ∈ Place.all text

namespace Ascending

variable {text : List Char} {places others : List Place}

theorem nil : Ascending text [] := ⟨.nil, by simp⟩

theorem sublist (ascending : Ascending text places) (fewer : others.Sublist places) :
    Ascending text others :=
  ⟨ascending.sorted.sublist fewer, fun place place_mem =>
    ascending.within place (fewer.subset place_mem)⟩

theorem head_lt {first : Place} (ascending : Ascending text (first :: places)) {place : Place}
    (place_mem : place ∈ places) : first.index < place.index :=
  List.rel_of_pairwise_cons ascending.sorted place_mem

theorem tail {first : Place} (ascending : Ascending text (first :: places)) :
    Ascending text places :=
  ascending.sublist (List.sublist_cons_self first places)

theorem cons {first : Place} (first_mem : first ∈ Place.all text)
    (before : ∀ place ∈ places, first.index < place.index) (ascending : Ascending text places) :
    Ascending text (first :: places) :=
  ⟨List.pairwise_cons.mpr ⟨before, ascending.sorted⟩,
    List.forall_mem_cons.mpr ⟨first_mem, ascending.within⟩⟩

/-- All places of a text, in order. -/
theorem all (text : List Char) : Ascending text (Place.all text) := by
  refine ⟨?_, fun _ place_mem => place_mem⟩
  rw [Place.all]
  generalize 0 = index, (none : Option Char) = before
  induction text generalizing index before with
  | nil => exact List.pairwise_singleton _ _
  | cons c text ih =>
      refine List.pairwise_cons.mpr ⟨fun place place_mem => ?_, ih (index + 1) (some c)⟩
      rcases Place.mem_allFrom_iff.mp place_mem with ⟨front, -, index_eq, -⟩
      show index < place.index
      omega

end Ascending

/-! ## Sets of places -/

namespace Place

variable {text : List Char}

@[simp]
theorem merge_nil (places : List Place) : merge places [] = places := by
  cases places <;> rfl

theorem merge_cons_cons (first other : Place) (rest others : List Place) :
    merge (first :: rest) (other :: others) =
      if first.index < other.index then first :: merge rest (other :: others)
      else if other.index < first.index then other :: merge (first :: rest) others
      else first :: merge rest others :=
  rfl

theorem without_cons_cons (first other : Place) (rest others : List Place) :
    without (first :: rest) (other :: others) =
      if first.index < other.index then first :: without rest (other :: others)
      else if other.index < first.index then without (first :: rest) others
      else without rest others :=
  rfl

theorem mem_merge {places others : List Place} (ascending : Ascending text places)
    (other_ascending : Ascending text others) {place : Place} :
    place ∈ merge places others ↔ place ∈ places ∨ place ∈ others := by
  induction places generalizing others with
  | nil => simp [merge]
  | cons first rest ih =>
      induction others with
      | nil => simp
      | cons other others inner =>
          rw [merge_cons_cons]
          split
          · rw [List.mem_cons, ih ascending.tail other_ascending,
              List.mem_cons (a := place) (b := first), or_assoc]
          · split
            · rw [List.mem_cons, inner other_ascending.tail,
                List.mem_cons (a := place) (b := other)]
              tauto
            · have same : first = other :=
                eq_of_index_eq (ascending.within first List.mem_cons_self)
                  (other_ascending.within other List.mem_cons_self) (by omega)
              rw [List.mem_cons, ih ascending.tail other_ascending.tail, List.mem_cons,
                List.mem_cons, same]
              tauto

theorem ascending_merge {places others : List Place} (ascending : Ascending text places)
    (other_ascending : Ascending text others) : Ascending text (merge places others) := by
  induction places generalizing others with
  | nil => exact other_ascending
  | cons first rest ih =>
      induction others with
      | nil => simpa using ascending
      | cons other others inner =>
          have first_mem := ascending.within first List.mem_cons_self
          have other_mem := other_ascending.within other List.mem_cons_self
          rw [merge_cons_cons]
          split
          · refine .cons first_mem (fun place place_mem => ?_) (ih ascending.tail other_ascending)
            rcases (mem_merge ascending.tail other_ascending).mp place_mem with old | new
            · exact ascending.head_lt old
            · rcases List.mem_cons.mp new with rfl | new
              · assumption
              · have := other_ascending.head_lt new
                omega
          · split
            · refine .cons other_mem (fun place place_mem => ?_) (inner other_ascending.tail)
              rcases (mem_merge ascending other_ascending.tail).mp place_mem with old | new
              · rcases List.mem_cons.mp old with rfl | old
                · assumption
                · have := ascending.head_lt old
                  omega
              · exact other_ascending.head_lt new
            · refine .cons first_mem (fun place place_mem => ?_)
                (ih ascending.tail other_ascending.tail)
              rcases (mem_merge ascending.tail other_ascending.tail).mp place_mem with old | new
              · exact ascending.head_lt old
              · have := other_ascending.head_lt new
                omega

theorem without_sublist (places others : List Place) :
    (without places others).Sublist places := by
  induction places generalizing others with
  | nil => exact List.Sublist.slnil
  | cons first rest ih =>
      induction others with
      | nil => exact List.Sublist.refl _
      | cons other others inner =>
          rw [without_cons_cons]
          split
          · exact (ih _).cons_cons first
          · split
            · exact inner
            · exact (ih others).cons first

theorem mem_without {places others : List Place} (ascending : Ascending text places)
    (other_ascending : Ascending text others) {place : Place} (place_mem : place ∈ places)
    (missing : place ∉ others) : place ∈ without places others := by
  induction places generalizing others with
  | nil => cases place_mem
  | cons first rest ih =>
      induction others with
      | nil => exact place_mem
      | cons other others inner =>
          rw [without_cons_cons]
          split
          · rcases List.mem_cons.mp place_mem with rfl | later
            · exact List.mem_cons_self
            · exact List.mem_cons_of_mem _ (ih ascending.tail other_ascending later missing)
          · have missing_tail : place ∉ others := fun found =>
              missing (List.mem_cons_of_mem _ found)
            split
            · exact inner other_ascending.tail missing_tail
            · have same : first = other :=
                eq_of_index_eq (ascending.within first List.mem_cons_self)
                  (other_ascending.within other List.mem_cons_self) (by omega)
              rcases List.mem_cons.mp place_mem with rfl | later
              · exact absurd (same ▸ List.mem_cons_self) missing
              · exact ih ascending.tail other_ascending.tail later missing_tail

end Place

/-! ## Steps -/

/-- The step leads from places of a text to places of the same text. -/
def Keeps (step : List Place → List Place) : Prop :=
  ∀ text places, Ascending text places → Ascending text (step places)

/-- Where the word stands after one of the places, the step reaches the place after it. -/
def Moves (step : List Place → List Place) (word : List Char) : Prop :=
  ∀ text places place, Ascending text places → place ∈ places → word <+: place.rest →
    place.after word ∈ step places

theorem moves_id : Moves id [] := fun _ _ _ _ place_mem _ => place_mem

theorem Moves.comp {first second : List Place → List Place} {word rest : List Char}
    (moves : Moves first word) (keeps : Keeps first) (then_moves : Moves second rest) :
    Moves (second ∘ first) (word ++ rest) := by
  intro text places place ascending place_mem ahead
  rcases Place.prefix_of_append ahead with ⟨first_ahead, rest_ahead⟩
  rw [Place.after_append]
  refine then_moves text _ _ (keeps text places ascending) ?_ rest_ahead
  exact moves text places place ascending place_mem first_ahead

section Repeating

variable {step : List Place → List Place}

theorem exactly_of_still {places : List Place} (still : step places = places) (count : Nat) :
    exactly step count places = places := by
  cases count with
  | zero => rfl
  | succ count => cases places <;> simp [exactly, still]

theorem exactly_succ {places : List Place} (nonempty : places ≠ []) (count : Nat) :
    exactly step (count + 1) places = exactly step count (step places) := by
  by_cases still : step places = places
  · rw [still, exactly_of_still still, exactly_of_still still]
  · simp [exactly, nonempty, still]

theorem keeps_exactly (keeps : Keeps step) (count : Nat) : Keeps (exactly step count) := by
  induction count with
  | zero => exact fun _ _ ascending => ascending
  | succ count ih =>
      intro text places ascending
      cases places with
      | nil => exact .nil
      | cons first rest =>
          rw [exactly_succ (List.cons_ne_nil first rest)]
          exact ih text _ (keeps text _ ascending)

theorem moves_exactly (keeps : Keeps step) {words : List (List Char)}
    (moves : ∀ word ∈ words, Moves step word) :
    Moves (exactly step words.length) words.flatten := by
  induction words with
  | nil => exact moves_id
  | cons word words ih =>
      have later := ih fun word word_mem => moves word (List.mem_cons_of_mem _ word_mem)
      have both := (moves word List.mem_cons_self).comp keeps later
      intro text places place ascending place_mem ahead
      rw [List.length_cons, exactly_succ (List.ne_nil_of_mem place_mem)]
      exact both text places place ascending place_mem ahead

theorem ascending_upTo (keeps : Keeps step) {text : List Char} (count : Nat)
    {frontier reached : List Place} (frontier_ascending : Ascending text frontier)
    (reached_ascending : Ascending text reached) :
    Ascending text (upTo step count frontier reached) := by
  induction count generalizing frontier reached with
  | zero => exact reached_ascending
  | succ count ih =>
      simp only [upTo]
      split
      · exact reached_ascending
      · have fresh_ascending := (keeps text frontier frontier_ascending).sublist
          (Place.without_sublist _ reached)
        exact ih fresh_ascending (Place.ascending_merge reached_ascending fresh_ascending)

/-- What was reached before the frontier leads nowhere new. -/
def Closed (step : List Place → List Place) (frontier reached : List Place) : Prop :=
  ∀ place ∈ reached, place ∉ frontier → ∀ word, Moves step word → word <+: place.rest →
    place.after word ∈ reached

/-- Without a frontier, no chain leaves what was reached. -/
theorem Closed.flatten_mem {reached : List Place} (closed : Closed step [] reached)
    {words : List (List Char)} (moves : ∀ word ∈ words, Moves step word) {place : Place}
    (place_mem : place ∈ reached) (ahead : words.flatten <+: place.rest) :
    place.after words.flatten ∈ reached := by
  induction words generalizing place with
  | nil => exact place_mem
  | cons word words ih =>
      rw [List.forall_mem_cons] at moves
      rcases Place.prefix_of_append ahead with ⟨first_ahead, rest_ahead⟩
      have next_mem := closed place place_mem List.not_mem_nil word moves.1 first_ahead
      rw [List.flatten_cons, Place.after_append]
      exact ih moves.2 next_mem rest_ahead

/-- The places of `frontier` lead to places that were reached or are new. -/
theorem Closed.step_mem {text : List Char} (keeps : Keeps step) {frontier reached : List Place}
    (closed : Closed step frontier reached) (frontier_ascending : Ascending text frontier)
    (reached_ascending : Ascending text reached) {place : Place} (place_mem : place ∈ reached)
    {word : List Char} (moves : Moves step word) (ahead : word <+: place.rest) :
    place.after word ∈ Place.merge reached (Place.without (step frontier) reached) := by
  have stepped_ascending := keeps text frontier frontier_ascending
  have fresh_ascending := stepped_ascending.sublist (Place.without_sublist _ reached)
  rw [Place.mem_merge reached_ascending fresh_ascending]
  by_cases known : place.after word ∈ reached
  · exact .inl known
  · by_cases on_frontier : place ∈ frontier
    · right
      exact Place.mem_without stepped_ascending reached_ascending
        (moves text frontier place frontier_ascending on_frontier ahead) known
    · exact .inl (closed place place_mem on_frontier word moves ahead)

/-- A chain of at most `count` words leads to a place that the search finds. -/
theorem mem_upTo {text : List Char} (keeps : Keeps step) (count : Nat)
    {frontier reached : List Place} (frontier_ascending : Ascending text frontier)
    (reached_ascending : Ascending text reached) (closed : Closed step frontier reached)
    {words : List (List Char)} (few : words.length ≤ count)
    (moves : ∀ word ∈ words, Moves step word) {place : Place} (place_mem : place ∈ reached)
    (ahead : words.flatten <+: place.rest) :
    place.after words.flatten ∈ upTo step count frontier reached := by
  induction count generalizing frontier reached words place with
  | zero =>
      rw [List.length_eq_zero_iff.mp (Nat.le_zero.mp few)]
      exact place_mem
  | succ count ih =>
      have fresh_ascending := (keeps text frontier frontier_ascending).sublist
        (Place.without_sublist _ reached)
      have next_mem : ∀ {other word}, other ∈ reached → Moves step word → word <+: other.rest →
          other.after word ∈ Place.merge reached (Place.without (step frontier) reached) :=
        fun other_mem moves ahead =>
          closed.step_mem keeps frontier_ascending reached_ascending other_mem moves ahead
      simp only [upTo]
      split
      · rename_i nothing
        rw [List.isEmpty_iff.mp nothing, Place.merge_nil] at next_mem
        have finished : Closed step [] reached := fun other other_mem _ word moves ahead =>
          next_mem other_mem moves ahead
        exact finished.flatten_mem moves place_mem ahead
      · have merged_ascending := Place.ascending_merge reached_ascending fresh_ascending
        have next_closed : Closed step (Place.without (step frontier) reached)
            (Place.merge reached (Place.without (step frontier) reached)) := by
          intro other other_mem not_fresh word moves ahead
          rcases (Place.mem_merge reached_ascending fresh_ascending).mp other_mem with old | fresh
          · exact next_mem old moves ahead
          · exact absurd fresh not_fresh
        cases words with
        | nil =>
            refine ih fresh_ascending merged_ascending next_closed (Nat.zero_le _) (by simp) ?_
              ahead
            exact (Place.mem_merge reached_ascending fresh_ascending).mpr (.inl place_mem)
        | cons word words =>
            rw [List.forall_mem_cons] at moves
            rcases Place.prefix_of_append ahead with ⟨first_ahead, rest_ahead⟩
            rw [List.flatten_cons, Place.after_append]
            exact ih fresh_ascending merged_ascending next_closed (Nat.le_of_succ_le_succ few)
              moves.2 (next_mem place_mem moves.1 first_ahead) rest_ahead

end Repeating

/-! ## Expressions -/

mutual

theorem keeps_ends : ∀ expression : Regex, Keeps expression.ends
  | .empty => fun _ _ ascending => ascending
  | .chars set => by
      intro text places ascending
      refine ⟨?_, fun place place_mem => ?_⟩
      · refine ascending.sorted.filterMap _
          fun first second before next next_eq other other_eq => ?_
        rw [Place.index_of_advance? next_eq, Place.index_of_advance? other_eq]
        omega
      · rcases List.mem_filterMap.mp place_mem with ⟨other, other_mem, advanced⟩
        exact Place.mem_all_of_advance? (ascending.within other other_mem) advanced
  | .look condition => fun _ _ ascending => ascending.sublist List.filter_sublist
  | .group _ body => keeps_ends body
  | .concat parts => keeps_endsOfAll parts
  | .alternation branches => keeps_endsOfAny branches
  | .repetition body least _ => fun text places ascending =>
      have first := keeps_exactly (keeps_ends body) least text places ascending
      ascending_upTo (keeps_ends body) _ first first

theorem keeps_endsOfAll : ∀ parts : List Regex, Keeps (endsOfAll parts)
  | [] => fun _ _ ascending => ascending
  | first :: rest => fun text places ascending =>
      keeps_endsOfAll rest text _ (keeps_ends first text places ascending)

theorem keeps_endsOfAny : ∀ branches : List Regex, Keeps (endsOfAny branches)
  | [] => fun _ _ _ => .nil
  | first :: rest => fun text places ascending =>
      Place.ascending_merge (keeps_ends first text places ascending)
        (keeps_endsOfAny rest text places ascending)

end

/-- The expression reads the word, wherever it stands. -/
def Reads (expression : Regex) (word : List Char) : Prop := Moves expression.ends word

theorem reads_chars {set : CharClass} {c : Char} (contained : set.contains c) :
    Reads (.chars set) [c] := by
  intro text places place _ place_mem ahead
  exact List.mem_filterMap.mpr ⟨place, place_mem, Place.advance?_eq contained ahead⟩

theorem moves_endsOfAll_cons {first : Regex} {rest : List Regex} {word remaining : List Char}
    (reads : Reads first word) (moves : Moves (endsOfAll rest) remaining) :
    Moves (endsOfAll (first :: rest)) (word ++ remaining) :=
  Moves.comp reads (keeps_ends first) moves

theorem ends_ofParts (parts : List Regex) (places : List Place) :
    (ofParts parts).ends places = endsOfAll parts places := by
  rcases parts with _ | ⟨part, _ | ⟨other, rest⟩⟩ <;> rfl

theorem reads_ofParts {parts : List Regex} {word : List Char}
    (moves : Moves (endsOfAll parts) word) : Reads (ofParts parts) word := by
  intro text places place ascending place_mem ahead
  rw [ends_ofParts]
  exact moves text places place ascending place_mem ahead

theorem endsOfAll_append (first second : List Regex) (places : List Place) :
    endsOfAll (first ++ second) places = endsOfAll second (endsOfAll first places) := by
  induction first generalizing places with
  | nil => rfl
  | cons part rest ih => exact ih (part.ends places)

theorem mem_endsOfAny {branches : List Regex} {branch : Regex} (branch_mem : branch ∈ branches)
    {text : List Char} {places : List Place} (ascending : Ascending text places) {place : Place}
    (place_mem : place ∈ branch.ends places) : place ∈ endsOfAny branches places := by
  induction branches with
  | nil => cases branch_mem
  | cons first rest ih =>
      refine (Place.mem_merge (keeps_ends first text places ascending)
        (keeps_endsOfAny rest text places ascending)).mpr ?_
      rcases List.mem_cons.mp branch_mem with rfl | later
      · exact .inl place_mem
      · exact .inr (ih later)

/-- An end of one of several branches is an end of all of them. -/
theorem mem_ends_ofBranches {branches : List Regex} {branch : Regex}
    (branch_mem : branch ∈ branches) {text : List Char} {places : List Place}
    (ascending : Ascending text places) {place : Place} (place_mem : place ∈ branch.ends places) :
    place ∈ (ofBranches branches).ends places := by
  have found := mem_endsOfAny branch_mem ascending place_mem
  rcases branches with _ | ⟨only, _ | ⟨other, rest⟩⟩
  · exact found
  · rwa [endsOfAny, endsOfAny, Place.merge_nil] at found
  · exact found

theorem length_filter_ne_nil_le (words : List (List Char)) :
    (words.filter fun word => word ≠ []).length ≤ words.flatten.length := by
  induction words with
  | nil => exact Nat.le_refl 0
  | cons word words ih =>
      rcases word with _ | ⟨c, word⟩
      · simpa using ih
      · rw [List.filter_cons_of_pos (by simp), List.length_cons, List.flatten_cons,
          List.length_append, List.length_cons]
        omega

/-- All places of a list lie no further than the steps that are taken from it. -/
theorem length_rest_lt_stepBound {text : List Char} {places : List Place}
    (ascending : Ascending text places) {place : Place} (place_mem : place ∈ places) :
    place.rest.length < stepBound places := by
  rcases places with _ | ⟨first, rest⟩
  · cases place_mem
  · have first_length := Place.index_add_length (ascending.within first List.mem_cons_self)
    have length := Place.index_add_length (ascending.within place place_mem)
    have order : first.index ≤ place.index := by
      rcases List.mem_cons.mp place_mem with rfl | later
      · exact Nat.le_refl _
      · exact Nat.le_of_lt (ascending.head_lt later)
    simp only [stepBound, List.head?_cons, Option.map_some, Option.getD_some]
    omega

theorem reads_repetition {body : Regex} {least : Nat} {greatest : Option Nat}
    {words : List (List Char)} (reads : ∀ word ∈ words, Reads body word)
    (enough : least ≤ words.length) (bounded : ∀ most, greatest = some most → words.length ≤ most) :
    Reads (.repetition body least greatest) words.flatten := by
  intro text places place ascending place_mem ahead
  have keeps := keeps_ends body
  have first_ascending := keeps_exactly keeps least text places ascending
  rw [← List.take_append_drop least words, List.flatten_append] at ahead ⊢
  rw [Place.after_append]
  rcases Place.prefix_of_append ahead with ⟨first_ahead, rest_ahead⟩
  have start_mem : place.after (words.take least).flatten ∈ exactly body.ends least places := by
    have moves := moves_exactly keeps fun word (word_mem : word ∈ words.take least) =>
      reads word (List.mem_of_mem_take word_mem)
    rw [List.length_take_of_le enough] at moves
    exact moves text places place ascending place_mem first_ahead
  have near := length_rest_lt_stepBound first_ascending start_mem
  have within := rest_ahead.length_le
  have short := length_filter_ne_nil_le (words.drop least)
  have fewer : ((words.drop least).filter fun word => word ≠ []).length ≤ words.length - least := by
    rw [← List.length_drop]
    exact List.length_filter_le _ _
  -- Words that are empty lead nowhere and can be left out.
  have moving : ((words.drop least).filter fun word => word ≠ []).flatten =
      (words.drop least).flatten := List.flatten_filter_ne_nil
  rw [← moving] at rest_ahead ⊢
  refine mem_upTo keeps _ first_ascending first_ascending
    (fun other other_mem missing => absurd other_mem missing) ?_
    (fun word word_mem => reads word (List.mem_of_mem_drop (List.mem_of_mem_filter word_mem)))
    start_mem rest_ahead
  cases greatest with
  | none =>
      simp only [Option.map_none, Option.getD_none]
      omega
  | some most =>
      have := bounded most rfl
      simp only [Option.map_some, Option.getD_some]
      omega

/-- Where a match ends, the text is matched. -/
theorem isMatch_of_mem {expression : Regex} {text : List Char} {place : Place}
    (place_mem : place ∈ expression.ends (Place.all text)) : expression.isMatch text := by
  rw [isMatch, Bool.not_eq_true', List.isEmpty_eq_false_iff_exists_mem]
  exact ⟨place, place_mem⟩

end ApiStub.Regex
