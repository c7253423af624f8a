import ApiStub.Api.Schema
import ApiStub.Mock.Calendar
import ApiStub.Mock.Text

/-!
# Values of string formats

One generator for each format with a form of its own.
-/

namespace ApiStub.Mock

open Api (TextFormat)

variable {σ : Type} [WordSource σ]

/-- The first instant a timestamp may be: 2000-01-01T00:00:00Z. -/
def firstInstant : Int := 946684800

/-- The last instant a timestamp may be: 2030-01-01T00:00:00Z. -/
def lastInstant : Int := 1893456000

/-- An instant between the first and the last. -/
def instant : Draw σ Int := Draw.intBetween firstInstant lastInstant

/-- The ending of a host name: at least two ASCII letters. -/
def suffix (vocabulary : Vocabulary) : Draw σ (List Char) :=
  (fun suffix =>
    let chars := (suffix.getD "").toList
    if 2 ≤ chars.length && chars.all Char.isAlpha then chars else "com".toList) <$>
    Draw.choose? vocabulary.suffixes

/-- A label and an ending. The ending is drawn first. -/
def hostname (vocabulary : Vocabulary) : Draw σ (List Char) := do
  let suffix ← suffix vocabulary
  let label ← word vocabulary
  pure (orElse "example" label ++ '.' :: suffix)

/-- A user name with a number from 1 to 999, at a host. -/
def email (vocabulary : Vocabulary) : Draw σ (List Char) := do
  let user ← word vocabulary
  let number ← Draw.natBetween .bits32 1 999
  let host ← hostname vocabulary
  pure (orElse "user" user ++ '.' :: Nat.toDigits 10 number ++ '@' :: host)

/-- An address at a host, with one path segment. -/
def uri (vocabulary : Vocabulary) : Draw σ (List Char) := do
  let host ← hostname vocabulary
  let segment ← word vocabulary
  pure ("https://".toList ++ host ++ '/' :: segment)

/-- A byte in two hexadecimal digits. -/
def hexByte (byte : Nat) : List Char :=
  [Nat.digitChar (byte / 16 % 16), Nat.digitChar (byte % 16)]

/-- Sets the version of a random identifier in the seventh byte and its variant in the ninth. -/
def markVersion (bytes : List Nat) : List Nat :=
  bytes.mapIdx fun index byte =>
    if index == 6 then 0x40 + byte % 16
    else if index == 8 then 0x80 + byte % 64
    else byte

/-- Sixteen bytes in groups of 4, 2, 2, 2 and 6. -/
def writeIdentifier (bytes : List Nat) : List Char :=
  let group (start length : Nat) : List Char := ((bytes.drop start).take length).flatMap hexByte
  group 0 4 ++ '-' :: group 4 2 ++ '-' :: group 6 2 ++ '-' :: group 8 2 ++ '-' :: group 10 6

/-- A random identifier. Each byte takes a word of its own. -/
def uuid : Draw σ (List Char) :=
  (fun words => writeIdentifier (markVersion (words.map (· % 256)))) <$>
    Draw.times 16 (Draw.word .bits32)

/-- The four bytes of a word, the most significant first. -/
def ipv4 : Draw σ (List Char) :=
  (fun word =>
    let octet (scale : Nat) : List Char := Nat.toDigits 10 (word / scale % 256)
    octet (256 ^ 3) ++ '.' :: octet (256 ^ 2) ++ '.' :: octet 256 ++ '.' :: octet 1) <$>
    Draw.word .bits32

/-- Eight groups of 16 bits, none left out. -/
def ipv6 : Draw σ (List Char) :=
  (fun words =>
    [':'].intercalate (words.map fun word => Nat.toDigits 16 (word % 65536))) <$>
    Draw.times 8 (Draw.word .bits32)

/-- A value of a format; none of a format without a form of its own, which draws nothing. -/
def formatted (vocabulary : Vocabulary) (format : TextFormat) : Draw σ (Option String) :=
  let written (draw : Draw σ (List Char)) : Draw σ (Option String) :=
    (fun chars => some (String.ofList chars)) <$> draw
  match format with
  | .dateTime => (fun seconds => some (writeInstant seconds)) <$> instant
  | .date => (fun seconds => some (Date.ofDay (seconds / 86400)).write) <$> instant
  | .email => written (email vocabulary)
  | .uri => written (uri vocabulary)
  | .uuid => written uuid
  | .hostname => written (hostname vocabulary)
  | .ipv4 => written ipv4
  | .ipv6 => written ipv6
  | .other _ => pure none

end ApiStub.Mock
