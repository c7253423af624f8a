import ApiStub.Text.Digits

/-!
# Socket addresses

An address is four bytes or eight groups of 16 bits, and a port. Four bytes are written with
points, groups with colons and in brackets; one run of zero groups may be left out, and the last
two groups may be written as four bytes. A name is no address.
-/

namespace ApiStub.Net

/-- The address of a host. -/
inductive IpAddress where
  /-- Four bytes. -/
  | v4 (bytes : List Nat)
  /-- Eight groups. -/
  | v6 (groups : List Nat)
  deriving DecidableEq, Repr, Inhabited

/-- The address of one end of a connection. -/
structure SocketAddress where
  /-- The host. -/
  ip : IpAddress
  /-- The port. -/
  port : Nat
  deriving DecidableEq, Repr, Inhabited

namespace IpAddress

/-- Bytes with points between them. -/
def writeBytes (bytes : List Nat) : String := ".".intercalate (bytes.map toString)

/-- Groups in hexadecimal with colons between them. -/
def writeGroups (groups : List Nat) : String :=
  ":".intercalate (groups.map fun group => String.ofList (Nat.toDigits 16 group))

/-- The length of the run of zeros at the beginning. -/
def zeroRun (groups : List Nat) : Nat := (groups.takeWhile (· == 0)).length

/-- The first of the longest runs of zeros, as its start and its length. -/
def longestRun (groups : List Nat) : Nat × Nat :=
  (List.range groups.length).foldl
    (fun best start =>
      let length := zeroRun (groups.drop start)
      if best.2 < length then (start, length) else best) (0, 0)

/-- The text of an address. The longest run of zero groups is left out when it has two groups at
least, and an address of four bytes inside of the larger space keeps its points. -/
def write : IpAddress → String
  | v4 bytes => writeBytes bytes
  | v6 groups =>
    match groups with
    | [0, 0, 0, 0, 0, 0xFFFF, high, low] =>
      "::ffff:" ++ writeBytes [high / 256, high % 256, low / 256, low % 256]
    | groups =>
      let (start, length) := longestRun groups
      if length < 2 then writeGroups groups
      else writeGroups (groups.take start) ++ "::" ++ writeGroups (groups.drop (start + length))

end IpAddress

/-- Reads a decimal number up to a greatest value; leading zeros count for nothing. -/
def readNumber (greatest : Nat) (input : List Char) : Option (Nat × List Char) :=
  let digits := input.takeWhile Char.isDigit
  let value := Text.decimal digits
  if digits.isEmpty || greatest < value then none else some (value, input.drop digits.length)

/-- Reads a byte: at most three digits and no leading zero. -/
def readByte (input : List Char) : Option (Nat × List Char) :=
  let digits := input.takeWhile Char.isDigit
  if 3 < digits.length || (digits.head? == some '0' && digits != ['0']) then none
  else readNumber 255 input

/-- Reads a group: at most four hexadecimal digits. -/
def readGroup (input : List Char) : Option (Nat × List Char) :=
  let digits := input.takeWhile fun c => (Text.hexDigit? c).isSome
  if 4 < digits.length then none
  else (Text.ofBase? 16 digits).map fun value => (value, input.drop digits.length)

/-- Reads a character that has to stand here. -/
def readMark (mark : Char) : List Char → Option (List Char)
  | [] => none
  | c :: rest => if c == mark then some rest else none

/-- Reads so many more bytes, each after a point. -/
def readBytesAfter : Nat → List Char → Option (List Nat × List Char)
  | 0, input => some ([], input)
  | count + 1, input => do
    let (byte, rest) ← readByte (← readMark '.' input)
    let (bytes, rest) ← readBytesAfter count rest
    some (byte :: bytes, rest)

/-- Reads four bytes. -/
def readBytes (input : List Char) : Option (List Nat × List Char) := do
  let (byte, rest) ← readByte input
  let (bytes, rest) ← readBytesAfter 3 rest
  some (byte :: bytes, rest)

/-- What four bytes are as groups. -/
def groupsOfBytes : List Nat → List Nat
  | [a, b, c, d] => [a * 256 + b, c * 256 + d]
  | _ => []

/-- Reads at most so many groups with colons between them. Where two groups fit, four bytes may
stand for the last two; the flag says whether they do. -/
def readGroups : Nat → (first : Bool) → List Char → List Nat × Bool × List Char
  | 0, _, input => ([], false, input)
  | count + 1, first, input =>
    match if first then some input else readMark ':' input with
    | none => ([], false, input)
    | some start =>
      match if count == 0 then none else readBytes start with
      | some (bytes, rest) => (groupsOfBytes bytes, true, rest)
      | none =>
        match readGroup start with
        | none => ([], false, input)
        | some (group, rest) =>
          let (groups, embedded, rest) := readGroups count false rest
          (group :: groups, embedded, rest)

/-- Reads eight groups, some of which may be left out. -/
def readSixteenBytes (input : List Char) : Option (List Nat × List Char) :=
  let (head, embedded, rest) := readGroups 8 true input
  if head.length == 8 then some (head, rest)
  else if embedded then none
  else do
    let rest ← readMark ':' (← readMark ':' rest)
    let (tail, _, rest) := readGroups (7 - head.length) true rest
    some (head ++ List.replicate (8 - head.length - tail.length) 0 ++ tail, rest)

/-- Drops the zone of an address, if one stands here. -/
def skipZone (input : List Char) : List Char :=
  match ((readMark '%' input).bind (readNumber (2 ^ 32 - 1))) with
  | some (_, rest) => rest
  | none => input

/-- Reads a port after its colon. -/
def readPort (input : List Char) : Option (Nat × List Char) :=
  (readMark ':' input).bind (readNumber 65535)

/-- The address that a text writes. -/
def SocketAddress.read? (text : String) : Option SocketAddress := do
  let input := text.toList
  let (ip, rest) ←
    match readBytes input with
    | some (bytes, rest) => some (IpAddress.v4 bytes, rest)
    | none => do
      let (groups, rest) ← readSixteenBytes (← readMark '[' input)
      some (IpAddress.v6 groups, ← readMark ']' (skipZone rest))
  let (port, rest) ← readPort rest
  if rest.isEmpty then some ⟨ip, port⟩ else none

end ApiStub.Net
