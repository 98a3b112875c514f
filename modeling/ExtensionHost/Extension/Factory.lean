import ExtensionHost.Extension.Conduct
import ExtensionHost.Notice
import ExtensionHost.Value.Tier

/-!
# Factories

A factory is known by its entry point and has constructors, which are told apart
by the types of their parameters. A table holds one factory for each entry point.
-/

namespace ExtensionHost

/-! ## Constructors and factories -/

/-- A constructor that has been invoked, with the arguments it received. -/
structure Invocation where
  position : Nat
  arguments : List DependencyValue
  deriving DecidableEq, Repr

/-- What comes of a constructor: an instance, a failure, or a break-down. -/
inductive Construction where
  | made (b : Blueprint)
  | failed (e : ErrorChain)
  | brokeDown (message : String)

/-- What ends the trying of constructors: the instance that was made, or the message
of a break-down. -/
def Construction.settled? : Construction → Option (Except String Blueprint)
  | .made b => some (.ok b)
  | .brokeDown message => some (.error message)
  | .failed _ => none

/-- The making of an instance. What comes of it may depend on the constructors that
were invoked for the extension before, the last one first. -/
structure Making where
  after : List Invocation → Construction

/-- An instance, whatever was before. -/
def Making.ok (b : Blueprint) : Making :=
  ⟨fun _ => .made b⟩

/-- A failure, whatever was before. -/
def Making.error (e : ErrorChain) : Making :=
  ⟨fun _ => .failed e⟩

/-- A way to construct an instance from a description and arguments. -/
structure Constructor where
  params : List ParamType
  build : Descriptor → List DependencyValue → Making

/-- The constructors behind one entry point. Those of a journaled factory leave
lines in the journal. -/
structure Factory where
  entryPoint : String
  constructors : List Constructor
  journaled : Bool

/-! ## Tables -/

/-- Factories in the order of their entry points. -/
structure FactoryTable where
  entries : List (String × Factory)

/-- The table without factories. -/
def FactoryTable.empty : FactoryTable := ⟨[]⟩

/-- The factory at an entry point. -/
def FactoryTable.get? (t : FactoryTable) (entryPoint : String) : Option Factory :=
  t.entries.lookup entryPoint

/-- Whether there is a factory at an entry point. -/
def FactoryTable.contains (t : FactoryTable) (entryPoint : String) : Bool :=
  (t.get? entryPoint).isSome

/-- The table with a factory, which takes the place of the one at its entry point. -/
def FactoryTable.insert (t : FactoryTable) (f : Factory) : FactoryTable :=
  ⟨insertEntry f.entryPoint f t.entries⟩

/-- What is noticed when a factory is put into a table. -/
def FactoryTable.insertNotices (t : FactoryTable) (f : Factory) : List Notice :=
  if t.contains f.entryPoint then [.factoryReplaced f.entryPoint] else []

/-- The table with several factories, and what is noticed on the way. -/
def FactoryTable.insertAll (t : FactoryTable) : List Factory → FactoryTable × List Notice
  | [] => (t, [])
  | f :: fs =>
    let (t', notices) := (t.insert f).insertAll fs
    (t', t.insertNotices f ++ notices)

/-- The entry points in ascending order. -/
def FactoryTable.entryPoints (t : FactoryTable) : List String :=
  t.entries.map (·.1)

/-- How many factories there are. -/
def FactoryTable.size (t : FactoryTable) : Nat :=
  t.entries.length

/-- A value of a record type, with the names of its fields. -/
def recordText (name : String) (fields : List (String × String)) : String :=
  let body := ", ".intercalate (fields.map fun (field, value) => field ++ ": " ++ value)
  name ++ " \x7b " ++ body ++ " \x7d"

/-- The table with its entry points. -/
def FactoryTable.debug (t : FactoryTable) : String :=
  recordText "FactoryTable" [("entry_points", quotedList t.entryPoints)]

end ExtensionHost
