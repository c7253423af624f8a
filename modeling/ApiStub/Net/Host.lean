import ApiStub.Net.Address

/-!
# Hosts

A host is given by its address, with or without brackets, or is this machine. Other names would
have to be looked up elsewhere and are not known here.
-/

namespace ApiStub.Net

/-- The name of this machine. -/
def localName : String := "localhost"

/-- The address of a port of a host. -/
def SocketAddress.ofHost? (host : String) (port : Nat) : Option SocketAddress :=
  SocketAddress.read? (host ++ ":" ++ toString port) <|>
    SocketAddress.read? ("[" ++ host ++ "]:" ++ toString port) <|>
    if host.toLower == localName then some ⟨.v4 [127, 0, 0, 1], port⟩ else none

end ApiStub.Net
