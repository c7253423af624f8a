import ApiStub.Json.Pointer

/-!
# References

An object with a text under `$ref` stands for another part of the same document. Following a chain
of references spends an allowance, so that a cycle ends: with nothing left the chain has no target.
-/

namespace ApiStub.Api

/-- The reference that a value is, if it is one. -/
def reference? (value : Json) : Option String :=
  (value.get? "$ref").bind Json.string?

/-- The part of the document that a reference names. Only references within the document, which
begin with `#`, have a target. -/
def resolve? (root : Json) (reference : String) : Option Json :=
  match reference.toList with
  | '#' :: pointer => Json.pointer? root (String.ofList pointer)
  | _ => none

/-- Follows references until a value is none, and answers that value with the allowance left. -/
def follow? (root : Json) (allowance : Nat) (value : Json) : Option (Json × Nat) :=
  match reference? value with
  | none => some (value, allowance)
  | some reference =>
    match allowance with
    | 0 => none
    | allowance + 1 => (resolve? root reference).bind (follow? root allowance)

theorem follow?_of_not_reference {root value : Json} (allowance : Nat)
    (plain : reference? value = none) : follow? root allowance value = some (value, allowance) := by
  cases allowance <;> simp [follow?, plain]

/-- What following answers is never a reference itself, and no allowance is gained. -/
theorem reference?_of_follow? {root value target : Json} {allowance left : Nat}
    (found : follow? root allowance value = some (target, left)) :
    reference? target = none ∧ left ≤ allowance := by
  induction allowance generalizing value with
  | zero =>
      unfold follow? at found
      split at found
      · rename_i plain
        cases found
        exact ⟨plain, Nat.le_refl _⟩
      · cases found
  | succ allowance ih =>
      unfold follow? at found
      split at found
      · rename_i plain
        cases found
        exact ⟨plain, Nat.le_refl _⟩
      · rename_i reference _
        obtain ⟨next, _, rest⟩ := Option.bind_eq_some_iff.mp found
        have := ih rest
        exact ⟨this.1, by omega⟩

end ApiStub.Api
