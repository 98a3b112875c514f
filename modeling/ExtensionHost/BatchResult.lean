import ExtensionHost.Json.Basic

/-!
# Results of batches

Which ids of a batch succeeded and which failed, with the reason of each failure.
An id is in one of the two groups only, the one it was recorded in last. Both
groups are kept in ascending order.
-/

namespace ExtensionHost

/-! ## Ordered lists of texts -/

/-- A text put into an ascending list that does not hold it yet. -/
def insertText (s : String) : List String → List String
  | [] => [s]
  | t :: ts => if s < t then s :: t :: ts else if s = t then t :: ts else t :: insertText s ts

/-- A text taken out of a list. -/
def eraseText (s : String) (ts : List String) : List String :=
  ts.filter (fun t => decide (t ≠ s))

/-- A value put under a text into an ascending table. -/
def insertEntry {α : Type} (key : String) (value : α) : List (String × α) → List (String × α)
  | [] => [(key, value)]
  | (k, v) :: rest =>
    if key < k then (key, value) :: (k, v) :: rest
    else if key = k then (key, value) :: rest
    else (k, v) :: insertEntry key value rest

/-- The value under a text taken out of a table. -/
def eraseEntry {α : Type} (key : String) (table : List (String × α)) : List (String × α) :=
  table.filter (fun entry => decide (entry.1 ≠ key))

/-! ## The result -/

/-- The outcome of a batch. -/
structure BatchResult where
  succeeded : List String
  failed : List String
  reasons : List (String × String)
  deriving DecidableEq, Repr

/-- Nothing has been recorded. -/
def BatchResult.empty : BatchResult := ⟨[], [], []⟩

/-- The id has succeeded. -/
def BatchResult.recordSuccess (r : BatchResult) (id : String) : BatchResult :=
  { succeeded := insertText id r.succeeded
    failed := eraseText id r.failed
    reasons := eraseEntry id r.reasons }

/-- The id has failed. -/
def BatchResult.recordFailure (r : BatchResult) (id reason : String) : BatchResult :=
  { succeeded := eraseText id r.succeeded
    failed := insertText id r.failed
    reasons := insertEntry id reason r.reasons }

/-- The outcome of one id. -/
def BatchResult.record {ε : Type} (r : BatchResult) (id : String) (wording : ε → String) :
    Except ε Unit → BatchResult
  | .ok _ => r.recordSuccess id
  | .error e => r.recordFailure id (wording e)

/-- No id has failed. -/
def BatchResult.isSuccess (r : BatchResult) : Bool :=
  r.failed.isEmpty

/-- How many ids have been recorded. -/
def BatchResult.total (r : BatchResult) : Nat :=
  r.succeeded.length + r.failed.length

/-- Why the id has failed. -/
def BatchResult.reason? (r : BatchResult) (id : String) : Option String :=
  r.reasons.lookup id

/-- The result as JSON. -/
def BatchResult.toJson (r : BatchResult) : Json :=
  .object [
    ("succeeded", .texts r.succeeded),
    ("failed", .texts r.failed),
    ("failure_reason", .object (r.reasons.map fun (id, reason) => (id, .text reason)))]

/-! ## Membership and look-up -/

@[simp] theorem mem_insertText {s t : String} {ts : List String} :
    t ∈ insertText s ts ↔ t = s ∨ t ∈ ts := by
  induction ts with
  | nil => simp [insertText]
  | cons u us ih => grind [insertText]

@[simp] theorem mem_eraseText {s t : String} {ts : List String} :
    t ∈ eraseText s ts ↔ t ∈ ts ∧ t ≠ s := by
  simp [eraseText]

theorem lookup_insertEntry {α : Type} {key k : String} {value : α}
    {table : List (String × α)} :
    (insertEntry key value table).lookup k = if k = key then some value else table.lookup k := by
  induction table with
  | nil => grind [insertEntry]
  | cons entry rest ih => grind [insertEntry]

theorem lookup_eraseEntry {α : Type} {key k : String} {table : List (String × α)} :
    (eraseEntry key table).lookup k = if k = key then none else table.lookup k := by
  induction table with
  | nil => simp [eraseEntry]
  | cons entry rest ih =>
    by_cases h : entry.1 = key <;> by_cases h' : k = key <;> grind [eraseEntry]

end ExtensionHost
