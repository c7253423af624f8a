import ApiStub.Json.Reader
import ApiStub.Proofs.Conformance
import ApiStub.Proofs.ExpansionRecursion
import ApiStub.Proofs.NearestFloat

/-!
# Integers between declared bounds

Bounds that a document writes as integers are kept as floats and brought back to integers when a
value is drawn. On the way a bound becomes its nearest neighbour of 53 significant bits, and the
values drawn lie between the neighbours. A bound is respected whenever its neighbour lies on the
inner side of it; one that has more bits can be missed, by 512 at most.
-/

namespace ApiStub

/-! ## Integers of a document -/

/-- The value is an integer of a document: as such, or as the negative zero that `-0` is read as. -/
inductive Json.Integral : Int → Json → Prop
  | int (n : Int) : Integral n (.int n)
  | negativeZero : Integral 0 (.float (-0.0))

/-- Every integer literal that fits 64 bits is read as its integer. -/
theorem Json.integral_ofInteger {negative : Bool} {magnitude : Nat}
    (fits : magnitude ≤ if negative then 2 ^ 63 else 2 ^ 63 - 1) :
    Integral (if negative then -magnitude else magnitude) (ofInteger negative magnitude) := by
  cases negative with
  | true =>
      simp only [if_true] at fits
      rcases Nat.eq_zero_or_pos magnitude with rfl | positive
      · exact .negativeZero
      · have read : ofInteger true magnitude = .int (-magnitude) := by
          simpa [ofInteger, positive.ne'] using fits
        rw [read]
        exact .int _
  | false =>
      have short : magnitude < 2 ^ 64 := by
        simp only [Bool.false_eq_true, if_false] at fits
        omega
      have read : ofInteger false magnitude = .int magnitude := by
        simpa [ofInteger] using short
      rw [read]
      exact .int _

/-- A bound written as an integer reads as a float that is its nearest neighbour. -/
theorem Json.Integral.exists_nearest {n : Int} {literal : Json} (integral : Integral n literal)
    (bounded : n.natAbs.log2 < 1023) : ∃ x value, literal.number? = some x ∧
      Binary64.ofFloat? x = some value ∧ value.IsInteger (nearest n) := by
  cases integral with
  | int =>
      rcases ofFloat?_ofInt bounded with ⟨value, read, integer⟩
      exact ⟨_, value, rfl, read, integer⟩
  | negativeZero => exact ⟨_, _, rfl, rfl, Binary64.isInteger_zero true (-1074)⟩

/-! ## Bounds of the values drawn -/

namespace Mock

open Api (ValueBounds)

theorem log2_lt_of_mem {n : Int} (lower : leastInt ≤ n) (upper : n ≤ greatestInt) :
    n.natAbs.log2 < 1023 := by
  simp only [leastInt, greatestInt] at lower upper
  rcases Nat.eq_zero_or_pos n.natAbs with zero | positive
  · simp [zero]
  · have length : n.natAbs.log2 < 64 := (Nat.log2_lt positive.ne').mpr (by omega)
    omega

theorem saturate_mono {n m : Int} (le : n ≤ m) : saturate n ≤ saturate m := by
  simp only [saturate]
  omega

section Bounds

variable {bounds : ValueBounds} {x : Float} {value : Binary64} {n : Int}

theorem realBound_of_ofFloat? (read : Binary64.ofFloat? x = some value) :
    realBound (some x) = some x := by
  rw [realBound, Option.filter_some, Binary64.isNaN_of_ofFloat? read]
  rfl

theorem lowerInteger_eq (declared : bounds.minimum = some x)
    (read : Binary64.ofFloat? x = some value) (integer : value.IsInteger n) :
    lowerInteger bounds = saturate n := by
  rw [lowerInteger, declared, realBound_of_ofFloat? read]
  simp only [Option.map_some, Option.getD_some, toInt64, read, integer.ceil_eq]

theorem upperInteger_eq (declared : bounds.maximum = some x)
    (read : Binary64.ofFloat? x = some value) (integer : value.IsInteger n) :
    upperInteger bounds = saturate n := by
  rw [upperInteger, declared, realBound_of_ofFloat? read]
  simp only [Option.map_some, Option.getD_some, toInt64, read, integer.floor_eq]

end Bounds

end Mock

/-! ## Declarations -/

namespace Api

/-- Keywords that answer for a schema before its type does. -/
def overriding : List String := ["$ref", "allOf", "oneOf", "anyOf", "example", "examples", "enum"]

/-- The members declare an integer between two bounds, and nothing that goes before it. -/
structure DeclaresInteger (members : Members) (least greatest : Int) : Prop where
  typed : declaredType? (.object members) = some "integer"
  minimum : ∃ literal, Json.find? members "minimum" = some literal ∧ literal.Integral least
  maximum : ∃ literal, Json.find? members "maximum" = some literal ∧ literal.Integral greatest
  plain : ∀ keyword ∈ overriding, Json.find? members keyword = none

namespace DeclaresInteger

variable {members : Members} {least greatest : Int}

theorem expandFrom_eq (declares : DeclaresInteger members least greatest) (root : Json)
    (fuel allowance : Nat) {used : Nat} (within : used < nodeBudget) :
    expandFrom root (fuel + 1) (.object members) allowance used =
      (.integer {} (valueBounds members), used + 1) := by
  have absent : ∀ keyword ∈ overriding, Json.find? members keyword = none := declares.plain
  simp only [overriding, List.forall_mem_cons] at absent
  rcases absent with ⟨ref, allOf, oneOf, anyOf, first, examples, enum, _⟩
  have followed : follow? root allowance (.object members) = some (.object members, allowance) :=
    follow?_of_not_reference allowance (by simp [reference?, Json.get?, ref])
  rw [expandFrom_succ, visitOnce_of_open within followed]
  simp only [expandMembers, branches?, allOf, alternative?, oneOf, anyOf, Option.bind_none,
    Option.or_none, expandTyped, declares.typed, example?, first, examples, allowedValues, enum]
  rfl

end DeclaresInteger

/-- The members of a schema of integers between two bounds. -/
def integerBetween (least greatest : Int) : Members :=
  [("type", .string "integer"), ("minimum", .int least), ("maximum", .int greatest)]

theorem declaresInteger_integerBetween (least greatest : Int) :
    DeclaresInteger (integerBetween least greatest) least greatest where
  typed := rfl
  minimum := ⟨_, rfl, .int least⟩
  maximum := ⟨_, rfl, .int greatest⟩
  plain := by
    intro keyword keyword_mem
    simp only [overriding, List.mem_cons, List.not_mem_nil, or_false] at keyword_mem
    rcases keyword_mem with rfl | rfl | rfl | rfl | rfl | rfl | rfl <;> rfl

end Api

namespace Mock.Maker

open Api (DeclaresInteger integerBetween declaresInteger_integerBetween)
open Api (expand expandFrom nodeBudget valueBounds)

variable {σ : Type} [WordSource σ]

/-- Between declared bounds, an integer lies between their nearest neighbours. -/
theorem yields_declaredInteger {members : Members} {least greatest : Int}
    (declares : DeclaresInteger members least greatest) (ordered : least ≤ greatest)
    (lower : leastInt ≤ least) (upper : greatest ≤ greatestInt) :
    (integer (valueBounds members) : Draw σ Int).Yields fun value =>
      saturate (nearest least) ≤ value ∧ value ≤ saturate (nearest greatest) := by
  rcases declares.minimum with ⟨low, lowFound, lowIntegral⟩
  rcases declares.maximum with ⟨high, highFound, highIntegral⟩
  rcases lowIntegral.exists_nearest (log2_lt_of_mem lower (ordered.trans upper))
    with ⟨x, _, lowKept, lowRead, lowExact⟩
  rcases highIntegral.exists_nearest (log2_lt_of_mem (lower.trans ordered) upper)
    with ⟨y, _, highKept, highRead, highExact⟩
  have lowBound : (valueBounds members).minimum = some x := by
    rw [valueBounds, lowFound, Option.bind_some, lowKept]
  have highBound : (valueBounds members).maximum = some y := by
    rw [valueBounds, highFound, Option.bind_some, highKept]
  refine (yields_integer (valueBounds members)).imp fun value facts => ?_
  rw [lowerInteger_eq lowBound lowRead lowExact, upperInteger_eq highBound highRead highExact]
    at facts
  exact facts.2 (saturate_mono (nearest_mono ordered))

/-- The neighbour of a 64-bit integer, brought back to 64 bits, is 512 away at most. -/
theorem nearest_within {n : Int} (lower : leastInt ≤ n) (upper : n ≤ greatestInt) :
    n - 512 ≤ saturate (nearest n) ∧ saturate (nearest n) ≤ n + 512 := by
  simp only [leastInt, greatestInt] at lower upper
  have error : (nearest n - n).natAbs ≤ 512 := by
    rcases Int.lt_or_eq_of_le lower with inner | rfl
    · have half := @nearest_error n 10 (by omega)
      omega
    · rw [nearest_of_isShort ⟨1, 63, by decide, by decide⟩]
      decide
  simp only [saturate, leastInt, greatestInt]
  omega

/-- A value drawn for a schema that declares bounds is an integer between their neighbours. -/
theorem yields_between_neighbours (maker : Maker) (root : Json) {members : Members}
    {least greatest : Int} (declares : DeclaresInteger members least greatest)
    (ordered : least ≤ greatest) (lower : leastInt ≤ least) (upper : greatest ≤ greatestInt)
    (fuel allowance : Nat) {used depth : Nat} (within : used < nodeBudget)
    (shallow : depth ≤ maker.policy.maxDepth) :
    (maker.valueAt depth (expandFrom root (fuel + 1) (.object members) allowance used).1 :
      Draw σ Json).Yields fun value => ∃ v : Int, value = .int v ∧
        saturate (nearest least) ≤ v ∧ v ≤ saturate (nearest greatest) := by
  rw [declares.expandFrom_eq root fuel allowance within, valueAt, guarded]
  simp only [Api.Schema.marks]
  rw [if_neg (by omega)]
  exact (yields_declaredInteger declares ordered lower upper).map fun v facts => ⟨v, rfl, facts⟩

/-- A value drawn for a schema that declares bounds is an integer between the nearest neighbours of
the bounds, brought back to 64 bits. It is not below the minimum unless the neighbour of the minimum
is, and not above the maximum unless that neighbour, brought back to 64 bits, is. So a bound of at
most 53 significant bits is respected, and no other is missed by more than 512. -/
theorem declared_bounds_respected (maker : Maker) (root : Json) {members : Members}
    {least greatest : Int} (declares : DeclaresInteger members least greatest)
    (ordered : least ≤ greatest) (lower : leastInt ≤ least) (upper : greatest ≤ greatestInt)
    (fuel allowance : Nat) {used depth : Nat} (within : used < nodeBudget)
    (shallow : depth ≤ maker.policy.maxDepth) :
    let node := (expandFrom root (fuel + 1) (.object members) allowance used).1
    (maker.valueAt depth node : Draw σ Json).Yields fun value => ∃ v : Int, value = .int v ∧
      saturate (nearest least) ≤ v ∧ v ≤ saturate (nearest greatest) ∧
      (least ≤ nearest least → least ≤ v) ∧
      (nearest greatest ≤ greatest ∨ greatest = greatestInt → v ≤ greatest) ∧
      (IsShort least.natAbs → least ≤ v) ∧ (IsShort greatest.natAbs → v ≤ greatest) ∧
      least - 512 ≤ v ∧ v ≤ greatest + 512 := by
  intro node
  refine (yields_between_neighbours maker root declares ordered lower upper fuel allowance within
    shallow).imp fun value facts => ?_
  rcases facts with ⟨v, same, above, below⟩
  have low := nearest_within lower (ordered.trans upper)
  have high := nearest_within (lower.trans ordered) upper
  have minimum : least ≤ nearest least → least ≤ v := by
    intro inner
    have kept : least ≤ saturate (nearest least) := by
      simp only [saturate]
      omega
    exact kept.trans above
  have maximum : nearest greatest ≤ greatest ∨ greatest = greatestInt → v ≤ greatest := by
    intro inner
    have kept : saturate (nearest greatest) ≤ greatest := by
      simp only [saturate]
      omega
    exact below.trans kept
  refine ⟨v, same, above, below, minimum, maximum, fun short => ?_, fun short => ?_, by omega,
    by omega⟩
  · exact minimum (nearest_of_isShort short).ge
  · exact maximum (.inl (nearest_of_isShort short).le)

/-- A minimum past 53 bits whose neighbour lies inside, and the greatest maximum of all. -/
theorem declared_bounds_respected_wide :
    let members := integerBetween 9007199254740995 greatestInt
    (9007199254740995 : Int) ≤ nearest 9007199254740995 ∧
      (({} : Maker).valueAt 0 (expandFrom .null nodeBudget (.object members) 0 0).1 :
        Draw ScriptedWords Json).Yields fun value => ∃ v : Int, value = .int v ∧
          9007199254740995 ≤ v ∧ v ≤ greatestInt := by
  intro members
  have inner : (9007199254740995 : Int) ≤ nearest 9007199254740995 := by decide
  have declares := declaresInteger_integerBetween 9007199254740995 greatestInt
  have within : 0 < nodeBudget := by decide
  refine ⟨inner, (declared_bounds_respected {} .null declares (by decide) (by decide) le_rfl 9999 0
    within (Nat.zero_le _)).imp fun value facts => ?_⟩
  rcases facts with ⟨v, same, _, _, lower, upper, _⟩
  exact ⟨v, same, lower inner, upper (.inr rfl)⟩

/-- The first integer that is no float, as both bounds: every value drawn is below the minimum. -/
theorem declared_minimum_missed :
    let members := integerBetween 9007199254740993 9007199254740993
    DeclaresInteger members 9007199254740993 9007199254740993 ∧
      (({} : Maker).value (expand .null (.object members) 10) : Draw ScriptedWords Json).Yields
        (· = .int 9007199254740992) ∧
      (9007199254740992 : Int) < 9007199254740993 := by
  intro members
  have declares := declaresInteger_integerBetween 9007199254740993 9007199254740993
  have within : 0 < nodeBudget := by decide
  refine ⟨declares, ?_, by decide⟩
  refine (yields_between_neighbours {} .null declares le_rfl (by decide) (by decide) 9999 10 within
    (Nat.zero_le _)).imp fun value facts => ?_
  rcases facts with ⟨v, rfl, above, below⟩
  have neighbour : saturate (nearest 9007199254740993) = 9007199254740992 := by decide
  rw [neighbour] at above below
  rw [Int.le_antisymm below above]

end Mock.Maker

end ApiStub
