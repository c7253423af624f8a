import ApiStub.Net.Address
import ApiStub.Proofs.Numerals

/-!
# Reading the groups of an address

Eight groups that are written in full, with colons between them, are read back as they are. The
reader looks for four bytes before every group but the last, and finds none where a colon follows.
-/

namespace ApiStub.Net

open Text (hexDigit? ofBase?_toDigits isSome_hexDigit?_of_mem_toDigits)

theorem readMark_eq_none {mark : Char} {input : List Char} (other : input.head? ≠ some mark) :
    readMark mark input = none := by
  cases input with
  | nil => rfl
  | cons c rest =>
      rw [readMark, if_neg]
      intro same
      exact other (congrArg some (eq_of_beq same))

/-- A group is read up to what is no digit of it. -/
theorem readGroup_toDigits {group : Nat} (fits : group < 65536) {rest : List Char}
    (stop : ∀ c, rest.head? = some c → hexDigit? c = none) :
    readGroup (Nat.toDigits 16 group ++ rest) = some (group, rest) := by
  have rest_taken : rest.takeWhile (fun c => (hexDigit? c).isSome) = [] := by
    cases rest with
    | nil => rfl
    | cons c rest => simp [stop c rfl]
  have taken : (Nat.toDigits 16 group ++ rest).takeWhile (fun c => (hexDigit? c).isSome) =
      Nat.toDigits 16 group := by
    have digits : ∀ c ∈ Nat.toDigits 16 group, (hexDigit? c).isSome = true :=
      isSome_hexDigit?_of_mem_toDigits (by decide) (by decide) group
    rw [List.takeWhile_append_of_pos digits, rest_taken, List.append_nil]
  have short : (Nat.toDigits 16 group).length ≤ 4 :=
    (Nat.length_toDigits_le_iff (by decide) (by decide)).mpr fits
  simp only [readGroup, taken]
  rw [if_neg (Nat.not_lt.mpr short), ofBase?_toDigits (by decide) (by decide)]
  simp

theorem rest_of_readByte {input rest : List Char} {byte : Nat}
    (read : readByte input = some (byte, rest)) : rest = input.dropWhile Char.isDigit := by
  simp only [readByte, readNumber] at read
  split at read
  · cases read
  · split at read
    · cases read
    · cases read
      have dropped : (input.takeWhile Char.isDigit ++ input.dropWhile Char.isDigit).drop
          (input.takeWhile Char.isDigit).length = input.dropWhile Char.isDigit := List.drop_left
      rwa [List.takeWhile_append_dropWhile] at dropped

/-- Four bytes do not begin with a group and a colon. -/
theorem readBytes_eq_none {digits : List Char}
    (hexadecimal : ∀ c ∈ digits, (hexDigit? c).isSome = true) (rest : List Char) :
    readBytes (digits ++ ':' :: rest) = none := by
  have pointless : ((digits ++ ':' :: rest).dropWhile Char.isDigit).head? ≠ some '.' := by
    rw [List.dropWhile_append]
    split
    · simp
    · rename_i left
      rw [List.head?_append_of_ne_nil _ (by simpa using left)]
      intro point
      have mem := List.dropWhile_sublist Char.isDigit |>.mem (List.mem_of_head? point)
      exact absurd (hexadecimal '.' mem) (by decide)
  generalize digits ++ ':' :: rest = input at pointless
  rcases read : readByte input with _ | ⟨byte, after⟩
  · simp [readBytes, read]
  · rw [← rest_of_readByte read] at pointless
    simp [readBytes, read, readBytesAfter, readMark_eq_none pointless]

/-- Groups, each after a colon. -/
def fields (groups : List Nat) : List Char :=
  groups.flatMap fun group => ':' :: Nat.toDigits 16 group

theorem hexDigit?_of_head?_fields {groups : List Nat} {c : Char}
    (first : (fields groups).head? = some c) : hexDigit? c = none := by
  cases groups with
  | nil => cases first
  | cons group rest =>
      cases first
      rfl

theorem readBytes_group (group : Nat) {rest : List Nat} (more : rest ≠ []) :
    readBytes (Nat.toDigits 16 group ++ fields rest) = none := by
  cases rest with
  | nil => exact absurd rfl more
  | cons next others =>
      exact readBytes_eq_none (isSome_hexDigit?_of_mem_toDigits (by decide) (by decide) group) _

/-- One more group in front, at the very beginning or after a colon. -/
theorem readGroups_cons {first : Bool} {input : List Char} {group : Nat} {rest : List Nat}
    (begun : (if first then some input else readMark ':' input) =
      some (Nat.toDigits 16 group ++ fields rest)) (fits : group < 65536)
    (read_rest : readGroups rest.length false (fields rest) = (rest, false, [])) :
    readGroups (rest.length + 1) first input = (group :: rest, false, []) := by
  have no_bytes : (if rest.length == 0 then none
      else readBytes (Nat.toDigits 16 group ++ fields rest)) = none := by
    split
    · rfl
    · rename_i more
      exact readBytes_group group (by simpa using more)
  have read_group : readGroup (Nat.toDigits 16 group ++ fields rest) =
      some (group, fields rest) := readGroup_toDigits fits fun _ => hexDigit?_of_head?_fields
  simp only [readGroups, begun, no_bytes, read_group, read_rest]

theorem readGroups_fields {groups : List Nat} (fit : ∀ group ∈ groups, group < 65536) :
    readGroups groups.length false (fields groups) = (groups, false, []) := by
  induction groups with
  | nil => rfl
  | cons group rest ih =>
      rw [List.forall_mem_cons] at fit
      exact readGroups_cons rfl fit.1 (ih fit.2)

/-- Eight groups that are written in full are read back. -/
theorem readSixteenBytes_groups {first : Nat} {rest : List Nat} (seven : rest.length = 7)
    (fit : ∀ group ∈ first :: rest, group < 65536) :
    readSixteenBytes (Nat.toDigits 16 first ++ fields rest) = some (first :: rest, []) := by
  rw [List.forall_mem_cons] at fit
  have read : readGroups 8 true (Nat.toDigits 16 first ++ fields rest) =
      (first :: rest, false, []) := by
    rw [show 8 = rest.length + 1 by omega]
    exact readGroups_cons rfl fit.1 (readGroups_fields fit.2)
  simp [readSixteenBytes, read, seven]

end ApiStub.Net
