import ApiStub.Text.Digits

/-!
# Flags

A flag is known by a name and perhaps by a letter, and may take a value. What values a flag takes
is part of it, so that reading arguments can refuse a value where it stands.
-/

namespace ApiStub.CommandLine

/-- The values a flag takes. -/
inductive Values where
  /-- Any text. -/
  | text
  /-- A path, which is not empty. -/
  | path
  /-- A natural number below a limit. -/
  | number (limit : Nat)
  /-- A natural number below a limit, where zero may have a minus sign. -/
  | signed (limit : Nat)
  deriving DecidableEq, Repr

/-- The number that a text writes with an optional sign, unless it is negative. -/
def nonnegative? (chars : List Char) : Option Nat :=
  match chars with
  | '-' :: digits =>
    if !digits.isEmpty && digits.all (· == '0') then some 0 else none
  | _ => Text.unsigned? chars

/-- The number below a limit that a text writes. -/
def below? (limit : Nat) (number : Option Nat) : Option Nat := number.filter (· < limit)

/-- Whether a text is such a value. -/
def Values.admits : Values → String → Bool
  | text, _ => true
  | path, value => !value.isEmpty
  | number limit, value => (below? limit (Text.unsigned? value.toList)).isSome
  | signed limit, value => (below? limit (nonnegative? value.toList)).isSome

/-- Something that is given by name. -/
structure Flag where
  /-- The name, which follows two hyphens. -/
  name : String
  /-- The letter, which follows one hyphen. -/
  letter : Option Char := none
  /-- The values it takes, if it takes one. -/
  values : Option Values := none
  /-- What it is for. -/
  help : String := ""
  deriving DecidableEq, Repr

/-- What is shown in the place of a value. -/
def placeholder (name : String) : String := "<" ++ name.toUpper ++ ">"

/-- The ways to write a flag. -/
def Flag.synopsis (flag : Flag) : String :=
  (match flag.letter with
    | some letter => "-" ++ String.singleton letter ++ ", "
    | none => "    ") ++
    "--" ++ flag.name ++ if flag.values.isSome then " " ++ placeholder flag.name else ""

/-- The flag that asks for help. -/
def helpFlag : Flag := { name := "help", letter := some 'h', help := "Print help" }

/-- The flag that asks for the version. -/
def versionFlag : Flag := { name := "version", letter := some 'V', help := "Print version" }

end ApiStub.CommandLine
