import ApiStub.CommandLine.Flag

/-!
# Scanning arguments

Arguments are read from left to right until one cannot be accepted or asks for an answer. A flag is
given at most once. Its value is joined to it or is the next argument, which must not look like a
flag then. After `--` nothing is a flag.
-/

namespace ApiStub.CommandLine

/-- Why reading arguments ends early. -/
inductive Stop where
  /-- They cannot be accepted. -/
  | misuse
  /-- They ask for help. -/
  | help
  /-- They ask for the version. -/
  | version
  deriving DecidableEq, Repr

/-- What was given. -/
structure Given where
  /-- The flags in order, with their values. -/
  flags : List (String × Option String) := []
  /-- The other arguments in order. -/
  operands : List String := []
  deriving DecidableEq, Repr

namespace Given

/-- Whether a flag was given. -/
def has (given : Given) (name : String) : Bool := given.flags.any (·.1 == name)

/-- The value of a flag. -/
def value? (given : Given) (name : String) : Option String :=
  (given.flags.find? (·.1 == name)).bind (·.2)

/-- Adds a flag without a value. -/
def addFlag (given : Given) (flag : Flag) : Except Stop Given :=
  if flag = helpFlag then .error .help
  else if flag = versionFlag then .error .version
  else if given.has flag.name then .error .misuse
  else .ok { given with flags := given.flags ++ [(flag.name, none)] }

/-- Adds a flag with a value. -/
def addValue (given : Given) (flag : Flag) (value : String) : Except Stop Given :=
  if given.has flag.name || !flag.values.any (·.admits value) then .error .misuse
  else .ok { given with flags := given.flags ++ [(flag.name, some value)] }

/-- Adds an argument that is no flag, where one at most is accepted, which is a path. -/
def addOperand (given : Given) (operand : String) : Except Stop Given :=
  if given.operands.isEmpty && Values.path.admits operand then
    .ok { given with operands := [operand] }
  else .error .misuse

end Given

/-- Whether an argument is written like a flag. -/
def looksLikeFlag (argument : String) : Bool := argument.startsWith "-" && argument != "-"

/-- What was given so far, and the flag whose value is the next argument. -/
abbrev Progress := Given × Option Flag

/-- Reads a flag by its name, with the value that is joined to it by an equals sign. -/
def readNamed (flags : List Flag) (given : Given) (text : List Char) : Except Stop Progress :=
  let name := String.ofList (text.takeWhile (· != '='))
  let joined := (text.dropWhile (· != '=')).tail?
  match flags.find? (·.name == name), joined with
  | none, _ => .error .misuse
  | some flag, none =>
    if flag.values.isSome then .ok (given, some flag)
    else (given.addFlag flag).map fun given => (given, none)
  | some flag, some value =>
    if flag.values.isSome then
      (given.addValue flag (String.ofList value)).map fun given => (given, none)
    else .error .misuse

/-- Reads flags by their letters. What follows the letter of a flag with a value is the value,
after an optional equals sign. -/
def readLetters (flags : List Flag) (given : Given) : List Char → Except Stop Progress
  | [] => .ok (given, none)
  | letter :: rest =>
    match flags.find? (·.letter == some letter) with
    | none => .error .misuse
    | some flag =>
      if flag.values.isNone then do
        readLetters flags (← given.addFlag flag) rest
      else
        match rest with
        | [] => .ok (given, some flag)
        | '=' :: value => (given.addValue flag (String.ofList value)).map fun given => (given, none)
        | value => (given.addValue flag (String.ofList value)).map fun given => (given, none)

/-- Reads an argument that is written like a flag. -/
def readFlag (flags : List Flag) (given : Given) (argument : String) : Except Stop Progress :=
  match argument.toList with
  | '-' :: '-' :: text => readNamed flags given text
  | '-' :: letters => readLetters flags given letters
  | _ => .error .misuse

/-- Reads all arguments. -/
def scan (flags : List Flag) : Progress → List String → Except Stop Given
  | (given, none), [] => .ok given
  | (_, some _), [] => .error .misuse
  | (given, some flag), argument :: rest =>
    if looksLikeFlag argument then .error .misuse
    else do scan flags (← given.addValue flag argument, none) rest
  | (given, none), argument :: rest =>
    if argument == "--" then rest.foldlM Given.addOperand given
    else if looksLikeFlag argument then do
      scan flags (← readFlag flags given argument) rest
    else do scan flags (← given.addOperand argument, none) rest

end ApiStub.CommandLine
