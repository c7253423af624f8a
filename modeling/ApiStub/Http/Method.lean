/-!
# Request methods

A method is a token of HTTP: at least one character, all of them token characters. Methods are
compared exactly, so `get` and `GET` are two methods.
-/

namespace ApiStub.Http

/-- A character of an HTTP token. -/
def isTokenChar (c : Char) : Bool :=
  c.isAlphanum || "!#$%&'*+-.^_\x60|~".toList.contains c

/-- A text that is an HTTP token. -/
def isToken (text : String) : Bool :=
  !text.toList.isEmpty && text.toList.all isTokenChar

/-- The method of a request. -/
structure Method where
  /-- The token it is written as. -/
  token : String
  deriving DecidableEq, Repr

namespace Method

/-- The method that a text names, when it is a token. -/
def ofToken? (text : String) : Option Method :=
  if isToken text then some ⟨text⟩ else none

/-- The method that reads a resource. -/
def get : Method := ⟨"GET"⟩

/-- The method that reads the head of a response only. -/
def head : Method := ⟨"HEAD"⟩

end Method

end ApiStub.Http
