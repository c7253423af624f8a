/-!
# Reading UTF-8

Two readers of a byte sequence: a strict one, and one that puts U+FFFD in the place of each
ill-formed part. An ill-formed part is as long as it can be while still being the beginning of a
well-formed sequence, and at least one byte.
-/

namespace ApiStub.Text

/-- What the first byte of a UTF-8 sequence says: how many bytes follow, the range of the first of
them, and the leading bits of the code point. -/
structure Utf8Lead where
  /-- Number of bytes after the first. -/
  following : Nat
  /-- Least value of the second byte. -/
  least : UInt8
  /-- Greatest value of the second byte. -/
  greatest : UInt8
  /-- Bits of the code point held by the first byte. -/
  bits : Nat

/-- The reading of a first byte; `none` for a byte that starts no sequence. The narrower ranges of
the second byte keep out overlong forms, surrogates and values above U+10FFFF. -/
def Utf8Lead.ofByte? (byte : UInt8) : Option Utf8Lead :=
  if byte < 0x80 then some ⟨0, 0, 0, byte.toNat⟩
  else if byte < 0xC2 then none
  else if byte < 0xE0 then some ⟨1, 0x80, 0xBF, byte.toNat - 0xC0⟩
  else if byte == 0xE0 then some ⟨2, 0xA0, 0xBF, 0⟩
  else if byte == 0xED then some ⟨2, 0x80, 0x9F, 13⟩
  else if byte < 0xF0 then some ⟨2, 0x80, 0xBF, byte.toNat - 0xE0⟩
  else if byte == 0xF0 then some ⟨3, 0x90, 0xBF, 0⟩
  else if byte < 0xF4 then some ⟨3, 0x80, 0xBF, byte.toNat - 0xF0⟩
  else if byte == 0xF4 then some ⟨3, 0x80, 0x8F, 4⟩
  else none

/-- The continuation bytes of one sequence: reads `count` of them, the first within the given
range, and answers the code point, or `none` at the first byte that does not fit, with the bytes
not consumed. -/
def continuation : Nat → UInt8 → UInt8 → Nat → List UInt8 → Option Nat × List UInt8
  | 0, _, _, bits, rest => (some bits, rest)
  | _ + 1, _, _, _, [] => (none, [])
  | count + 1, least, greatest, bits, byte :: rest =>
    if least ≤ byte && byte ≤ greatest then
      continuation count 0x80 0xBF (bits * 64 + (byte.toNat - 0x80)) rest
    else (none, byte :: rest)

/-- The first character of a non-empty byte sequence, `none` for an ill-formed part, and what
follows it. -/
def decodeFirst (byte : UInt8) (rest : List UInt8) : Option Char × List UInt8 :=
  match Utf8Lead.ofByte? byte with
  | none => (none, rest)
  | some lead =>
    match continuation lead.following lead.least lead.greatest lead.bits rest with
    | (some code, rest) => (some (Char.ofNat code), rest)
    | (none, rest) => (none, rest)

/-- Reads at most `fuel` characters, handing each ill-formed part to the caller as `none`. -/
def decodeWith : Nat → List UInt8 → List (Option Char)
  | 0, _ => []
  | _ + 1, [] => []
  | fuel + 1, byte :: rest =>
    let (char, rest) := decodeFirst byte rest
    char :: decodeWith fuel rest

/-- The text of a byte sequence, with U+FFFD for each ill-formed part. -/
def decodeLossy (bytes : List UInt8) : String :=
  String.ofList ((decodeWith bytes.length bytes).map (·.getD '\uFFFD'))

/-- The text of a well-formed byte sequence. -/
def decode? (bytes : List UInt8) : Option String :=
  ((decodeWith bytes.length bytes).mapM id).map String.ofList

/-- The bytes of a text. -/
def encode (text : String) : List UInt8 := text.toUTF8.toList

end ApiStub.Text
