/-!
# Error chains

What the code of an extension says when it fails: a text with the causes below
it.
-/

namespace ExtensionHost

/-- A failure with its causes, the nearest one first. -/
structure ErrorChain where
  outer : String
  causes : List String
  deriving DecidableEq, Inhabited, Repr

/-- The failure alone. -/
def ErrorChain.brief (e : ErrorChain) : String :=
  e.outer

/-- The failure with all its causes. -/
def ErrorChain.full (e : ErrorChain) : String :=
  ": ".intercalate (e.outer :: e.causes)

@[simp] theorem ErrorChain.full_of_no_causes (s : String) : (ErrorChain.mk s []).full = s := by
  simp [full]

theorem ErrorChain.full_of_cause (s t : String) (rest : List String) :
    (ErrorChain.mk s (t :: rest)).full = s ++ ": " ++ (ErrorChain.mk t rest).full := by
  simp [full]

end ExtensionHost
