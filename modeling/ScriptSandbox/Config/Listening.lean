import ScriptSandbox.Config.Basic
import ScriptSandbox.Net.Reader

/-!
# The address to listen on

The host of a server is written before its port, and the whole must be a socket address.
-/

namespace ScriptSandbox.Config

/-- The host and the port of a server. -/
def Server.addressText (s : Server) : String := s.host ++ ":" ++ toString s.port.toNat

/-- The address that a server listens on. -/
def Server.address (s : Server) : Except Report Net.SocketAddress :=
  match Net.SocketAddress.ofText? s.addressText.toList with
  | some a => .ok a
  | none => .error {
      message := "invalid listen address " ++ s.addressText
      causes := ["invalid socket address syntax"] }

end ScriptSandbox.Config
