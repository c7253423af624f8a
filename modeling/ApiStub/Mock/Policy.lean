/-!
# Policy of a maker

What a maker does where a schema leaves it a choice.
-/

namespace ApiStub.Mock

/-- Choices for what a schema leaves open. -/
structure Policy where
  /-- The chance that a property is present which need not be. -/
  optionalChance : Float := 0.8
  /-- The least length of an array without a declared one. -/
  minItems : Nat := 1
  /-- The greatest length of an array without a declared one. -/
  maxItems : Nat := 5
  /-- The least length of a text without a declared one. -/
  minLength : Nat := 1
  /-- The greatest length of a text without a declared one. -/
  maxLength : Nat := 20
  /-- The deepest level that is still expanded. -/
  maxDepth : Nat := 8
  /-- Decimal places of a number. -/
  precision : Nat := 2
  deriving BEq, Inhabited

namespace Policy

/-- The chance as a probability: limited to `0 .. 1`, the default when it is not finite. -/
def inclusion (policy : Policy) : Float :=
  let p := policy.optionalChance
  if p.isFinite then
    if p < 0.0 then 0.0 else if p > 1.0 then 1.0 else p
  else ({} : Policy).optionalChance

/-- The bounds in force for a length: declared bounds win, the given ones fill the gaps, and an
inverted range collapses to its lower end. -/
def effectiveBounds (least greatest : Option Nat) (defaultLeast defaultGreatest : Nat) :
    Nat × Nat :=
  match least, greatest with
  | some lo, some hi => (lo, max hi lo)
  | some lo, none => (lo, max defaultGreatest lo)
  | none, some hi => (min defaultLeast hi, hi)
  | none, none => (defaultLeast, max defaultGreatest defaultLeast)

theorem effectiveBounds_le (least greatest : Option Nat) (defaultLeast defaultGreatest : Nat) :
    (effectiveBounds least greatest defaultLeast defaultGreatest).1 ≤
      (effectiveBounds least greatest defaultLeast defaultGreatest).2 := by
  cases least <;> cases greatest <;> simp only [effectiveBounds] <;> omega

end Policy

end ApiStub.Mock
