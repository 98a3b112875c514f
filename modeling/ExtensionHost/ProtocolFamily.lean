/-!
# Protocol families

The kind of traffic that an extension serves, told from its id: ids follow a
naming convention, and the first family whose mark an id carries is its family.
Marks are compared without regard to the case of ASCII letters.
-/

namespace ExtensionHost

/-- A kind of traffic. -/
inductive ProtocolFamily where
  | http
  | mqtt
  | tcp
  | udp
  | webSocket
  | custom
  deriving DecidableEq, Repr

/-- All families. -/
def ProtocolFamily.all : List ProtocolFamily :=
  [.http, .mqtt, .tcp, .udp, .webSocket, .custom]

/-- The name of the family in messages. -/
def ProtocolFamily.display : ProtocolFamily → String
  | .http => "HTTP"
  | .mqtt => "MQTT"
  | .tcp => "TCP"
  | .udp => "UDP"
  | .webSocket => "WebSocket"
  | .custom => "Custom"

/-- The name of the family in data. -/
def ProtocolFamily.name : ProtocolFamily → String
  | .http => "http"
  | .mqtt => "mqtt"
  | .tcp => "tcp"
  | .udp => "udp"
  | .webSocket => "websocket"
  | .custom => "custom"

/-- The family with the name. -/
def ProtocolFamily.ofName? (name : String) : Option ProtocolFamily :=
  ProtocolFamily.all.find? (·.name == name)

/-- Whether the traffic is made of requests with answers. -/
def ProtocolFamily.isRequestBased : ProtocolFamily → Bool
  | .http => true
  | _ => false

/-! ## Marks in an id -/

/-- Whether the second list occurs in the first one as a block. -/
def containsBlock {α : Type} [BEq α] : List α → List α → Bool
  | [], block => block.isEmpty
  | x :: xs, block => block.isPrefixOf (x :: xs) || containsBlock xs block

theorem containsBlock_iff {α : Type} [BEq α] [LawfulBEq α] {xs block : List α} :
    containsBlock xs block = true ↔ block <:+: xs := by
  induction xs with
  | nil => simp [containsBlock]
  | cons x xs ih =>
    rw [containsBlock, Bool.or_eq_true, List.isPrefixOf_iff_prefix, ih, List.infix_cons_iff]

/-- The text with its ASCII letters in lower case. -/
def lowerAscii (s : String) : List Char :=
  s.toList.map Char.toLower

/-- The family that an id belongs to. Web sockets come first, so that an id that
also names the protocol below them counts as theirs. -/
def ProtocolFamily.ofId? (id : String) : Option ProtocolFamily :=
  let cs := lowerAscii id
  if containsBlock cs "websocket".toList || "ws-".toList.isPrefixOf cs ||
      "-ws".toList.isSuffixOf cs then some .webSocket
  else if containsBlock cs "mqtt".toList then some .mqtt
  else if containsBlock cs "http".toList then some .http
  else if containsBlock cs "tcp".toList then some .tcp
  else if containsBlock cs "udp".toList then some .udp
  else if containsBlock cs "custom".toList then some .custom
  else none

end ExtensionHost
