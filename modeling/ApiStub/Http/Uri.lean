import ApiStub.Text.Split

/-!
# Request targets

The target of a request is a path with an optional query, a full address that begins with a
scheme, an authority alone, or an asterisk. A fragment is dropped. What may not stand in a target
makes it no target at all; the path is wider than the rules of addresses ask for, since clients
send quotes, braces and text beyond ASCII.
-/

namespace ApiStub.Http

/-- A request target. -/
structure Uri where
  /-- The scheme of a full address. -/
  scheme : Option String := none
  /-- The authority; empty when there is none. -/
  authority : String := ""
  /-- The path. A full address without one has the path `/`. -/
  path : String
  /-- The query, without its question mark. -/
  query : Option String := none
  deriving DecidableEq, Repr, Inhabited

namespace Uri

/-- The text of a target. -/
def write (uri : Uri) : String :=
  (uri.scheme.map (· ++ "://")).getD "" ++ uri.authority ++ uri.path ++
    (uri.query.map ("?" ++ ·)).getD ""

/-- Whether a code point lies between two others. -/
def between (c : Char) (least greatest : Nat) : Bool := least ≤ c.toNat && c.toNat ≤ greatest

/-- A character that may stand in a path. -/
def isPathChar (c : Char) : Bool :=
  c == '!' || between c 0x24 0x3B || c == '=' || between c 0x40 0x5F || between c 0x61 0x7E ||
    c == '"' || 0x7F ≤ c.toNat

/-- A character that may stand in a query. -/
def isQueryChar (c : Char) : Bool :=
  c == '!' || between c 0x24 0x3B || c == '=' || 0x3F ≤ c.toNat

/-- A character that may stand in a scheme. -/
def isSchemeChar (c : Char) : Bool := c.isAlphanum || c == '+' || c == '-' || c == '.'

/-- A character that may stand in an authority, `%` aside. -/
def isAuthorityChar (c : Char) : Bool :=
  c.isAlphanum || "!$&'()*+,-.:;=@[]_~".toList.contains c

/-- Whether a character ends an authority. -/
def endsAuthority (c : Char) : Bool := c == '/' || c == '?' || c == '#'

/-- What has been seen of an authority. -/
structure Seen where
  /-- Colons since the last at sign or closing bracket. -/
  colons : Nat := 0
  /-- Whether a bracket has been opened. -/
  opened : Bool := false
  /-- Whether a bracket has been closed. -/
  closed : Bool := false
  /-- Whether there was a `%` since the last at sign or closing bracket. -/
  percent : Bool := false
  /-- Whether the last character was an at sign. -/
  afterAt : Bool := false

/-- An authority has at most so many colons in a row of groups. -/
def maxColons : Nat := 8

/-- Takes one more character of an authority into account. -/
def Seen.step (seen : Seen) (c : Char) : Option Seen :=
  let seen := { seen with afterAt := c == '@' }
  if c == ':' then
    if maxColons ≤ seen.colons then none else some { seen with colons := seen.colons + 1 }
  else if c == '[' then
    if seen.percent || seen.opened then none else some { seen with opened := true }
  else if c == ']' then
    if !seen.opened || seen.closed then none
    else some { seen with closed := true, colons := 0, percent := false }
  else if c == '@' then some { seen with colons := 0, percent := false }
  else if c == '%' then some { seen with percent := true }
  else if isAuthorityChar c then some seen
  else none

/-- Whether an authority may end with what has been seen: brackets in pairs, one colon at most
before a port, something after an at sign, and no `%` in the host. -/
def Seen.complete (seen : Seen) : Bool :=
  seen.opened == seen.closed && seen.colons ≤ 1 && !seen.afterAt && !seen.percent

/-- Whether a text is an authority; it may be empty. -/
def isAuthority (text : List Char) : Bool :=
  ((text.foldlM Seen.step {}).map Seen.complete).getD false

/-- Reads a path with its query and drops the fragment. -/
def readPath (input : List Char) : Option (String × Option String) :=
  let path := input.takeWhile fun c => c != '?' && c != '#'
  if !path.all isPathChar then none
  else
    let written := if path.isEmpty then "/" else String.ofList path
    match input.drop path.length with
    | '?' :: rest =>
      let query := rest.takeWhile (· != '#')
      if query.all isQueryChar then some (written, some (String.ofList query)) else none
    | _ => some (written, none)

/-- The longest scheme. -/
def maxSchemeLength : Nat := 64

/-- The scheme at the beginning of a text with what follows its `://`: the two common ones in any
case, others as they are written. The result is none when the scheme is too long, and has no scheme
when there is none. -/
def readScheme (input : List Char) : Option (Option String × List Char) :=
  let scheme := input.takeWhile isSchemeChar
  match input.drop scheme.length with
  | ':' :: '/' :: '/' :: rest =>
    let lower := String.ofList (scheme.map Char.toLower)
    if lower == "http" || lower == "https" then some (some lower, rest)
    else if maxSchemeLength < scheme.length then none
    else some (some (String.ofList scheme), rest)
  | _ => some (none, input)

/-- Reads a target that does not begin with a slash. -/
def readFull (input : List Char) : Option Uri := do
  let (scheme, rest) ← readScheme input
  let authority := rest.takeWhile fun c => !endsAuthority c
  if !isAuthority authority then none
  else
    let written := String.ofList authority
    let rest := rest.drop authority.length
    match scheme with
    | none => if rest.isEmpty then some { authority := written, path := "" } else none
    | some _ =>
      if authority.isEmpty then none
      else
        let (path, query) ← readPath rest
        some { scheme, authority := written, path, query }

/-- The longest target, in bytes. -/
def maxLength : Nat := 65534

/-- The target that a text writes. -/
def read? (text : String) : Option Uri :=
  if maxLength < text.utf8ByteSize then none
  else
    match text.toList with
    | [] => none
    | ['*'] => some { path := "*" }
    | '/' :: rest => (readPath ('/' :: rest)).map fun (path, query) => { path, query }
    | input => readFull input

end Uri

end ApiStub.Http
