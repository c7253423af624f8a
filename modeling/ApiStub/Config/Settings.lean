import ApiStub.Api.Source
import ApiStub.Route.Respond

/-!
# Settings

Everything that can be set, in sections. The defaults are those of the fields.
-/

namespace ApiStub.Config

/-- Where to listen, and how requests are served. -/
structure Server where
  /-- The host to bind. -/
  host : String := "127.0.0.1"
  /-- The port to bind; zero takes any free one. -/
  port : Nat := 9501
  /-- How many threads serve requests. -/
  workers : Nat := 4
  /-- After how many seconds a request is given up. -/
  requestTimeout : Nat := 30
  deriving DecidableEq, Repr, Inhabited

/-- The host and the port to bind. -/
def Server.listenAddress (server : Server) : String := server.host ++ ":" ++ toString server.port

/-- How bodies are made. -/
structure Mocking where
  /-- Choices for what a schema leaves open. -/
  policy : Mock.Policy := {}
  /-- Whether a body is drawn for every request. -/
  live : Bool := false
  /-- The seed of the bodies that are made beforehand; without one they differ between runs. -/
  seed : Option Nat := none
  deriving BEq, Inhabited

/-- How bodies are come by. -/
def Mocking.mode (mocking : Mocking) : Route.Mode := if mocking.live then .live else .prepared

/-- What is logged. -/
structure Logging where
  /-- The level. -/
  level : String := "info"
  /-- Whether lines are JSON. -/
  json : Bool := false
  /-- Whether requests are logged. -/
  accessLog : Bool := false
  /-- Beginnings of paths that are left out. -/
  excludePaths : List String := ["/health"]
  /-- Whether bodies of requests are logged. -/
  logBody : Bool := true
  /-- Names of members whose values are masked. -/
  sensitiveFields : List String := ["password", "token", "secret", "credit_card"]
  deriving DecidableEq, Repr, Inhabited

/-- Where metrics are offered. -/
structure Metrics where
  /-- Whether they are. -/
  enabled : Bool := false
  /-- The address to listen on. -/
  address : String := "127.0.0.1:9090"
  deriving DecidableEq, Repr, Inhabited

/-- Whether the document is watched for changes. -/
structure Reload where
  /-- Whether it is. -/
  enabled : Bool := false
  deriving DecidableEq, Repr, Inhabited

/-- All settings. -/
structure Settings where
  server : Server := {}
  mocking : Mocking := {}
  openapi : Api.Requirements := {}
  logging : Logging := {}
  metrics : Metrics := {}
  reload : Reload := {}
  deriving BEq, Inhabited

end ApiStub.Config
