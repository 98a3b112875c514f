import ExtensionHost.Notice

/-!
# Dependencies

The arguments that constructors are given. They depend on the protocol family
alone: each family has its keys, and the values under them are the arguments, in
order.
-/

namespace ExtensionHost

/-! ## Keys -/

/-- The keys of a family's dependencies. -/
def ProtocolFamily.dependencyKeys : ProtocolFamily → List String
  | .http => ["http.router", "http.server", "stats.collector"]
  | .mqtt => ["mqtt.broker", "mqtt.session_store", "stats.collector"]
  | .tcp => ["tcp.server", "tcp.codec_registry", "stats.collector"]
  | .udp => []
  | .webSocket => ["websocket.server", "websocket.session_registry", "stats.collector"]
  | .custom => ["custom.protocol_registry", "stats.collector"]

/-- The keys of the dependencies of an extension; one without a family has none. -/
def dependencyKeys (id : String) : List String :=
  match ProtocolFamily.ofId? id with
  | some family => family.dependencyKeys
  | none => []

/-! ## Values -/

/-- Values under their keys, in ascending order. -/
abbrev DependencyTable := List (String × DependencyValue)

/-- The table of a list of values; of several under one key the last one counts. -/
def DependencyTable.ofList (values : List (String × DependencyValue)) : DependencyTable :=
  values.foldl (fun table (key, value) => insertEntry key value table) []

/-- The arguments for an extension. A key without a value gives null. -/
def DependencyTable.arguments (table : DependencyTable) (id : String) : List DependencyValue :=
  (dependencyKeys id).map fun key => (table.lookup key).getD .null

/-- What is noticed when the arguments for an extension are put together. -/
def DependencyTable.notices (table : DependencyTable) (id : String) : List Notice :=
  (dependencyKeys id).filterMap fun key =>
    match table.lookup key with
    | some _ => none
    | none => some (.dependencyUnresolved id key)

end ExtensionHost
