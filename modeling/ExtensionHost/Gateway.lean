import ExtensionHost.Extension.Response
import ExtensionHost.ProtocolFamily

/-!
# Gateways

A gateway carries the traffic of one protocol family. It is told to keep new
traffic from an extension, and to close the connections the extension has.
-/

namespace ExtensionHost

/-- What a gateway is told to do. -/
inductive GatewayCall where
  | stopAccepting
  | closeConnections
  deriving DecidableEq, Repr

/-- A gateway: how it answers for an extension, and how many of the extension's
connections it carries. -/
structure Gateway where
  respond : String → GatewayCall → Response
  connections : String → Nat

end ExtensionHost
