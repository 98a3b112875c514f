import ExtensionHost.Extension.Instance

/-!
# The registry

Which instance is registered under which id, and the contexts of the registered
instances. Instances are known by their numbers.
-/

namespace ExtensionHost

/-- The registered instances and their contexts, in the order of their ids. -/
structure Registry where
  records : List (String × Nat)
  contexts : List (String × Context)

/-- Nothing is registered. -/
def Registry.empty : Registry := ⟨[], []⟩

/-- The number of the instance registered under an id. -/
def Registry.get? (r : Registry) (id : String) : Option Nat :=
  r.records.lookup id

/-- The context of the instance registered under an id. -/
def Registry.context? (r : Registry) (id : String) : Option Context :=
  r.contexts.lookup id

/-- The registered ids, in ascending order. -/
def Registry.ids (r : Registry) : List String :=
  r.records.map (·.1)

/-- Keeps the context of the instance that is registered under an id, or none. -/
def Registry.storeContext (r : Registry) (id : String) : Option Context → Registry
  | some context => { r with contexts := insertEntry id context r.contexts }
  | none => { r with contexts := eraseEntry id r.contexts }

/-- Keeps the number of the instance that is registered under an id. -/
def Registry.storeRecord (r : Registry) (id : String) (number : Nat) : Registry :=
  { r with records := insertEntry id number r.records }

/-- Forgets the number of the instance that is registered under an id. -/
def Registry.dropRecord (r : Registry) (id : String) : Registry :=
  { r with records := eraseEntry id r.records }

/-- Registers an instance with its context under an id: first the context is kept,
and then the instance. -/
def Registry.insert (r : Registry) (id : String) (number : Nat) (context : Option Context) :
    Registry :=
  (r.storeContext id context).storeRecord id number

/-- Takes out what is registered under an id: first the context, and then the
instance. -/
def Registry.erase (r : Registry) (id : String) : Registry :=
  (r.storeContext id none).dropRecord id

end ExtensionHost
