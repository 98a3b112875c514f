import ExtensionHost.Error.Chain

/-!
# Responses

How foreign code answers a call: after some time it succeeds, fails, or breaks
down. An answer always comes. Code that goes on for ever is left out, and what is
said here of programs that come to an end is said of foreign code that returns or
breaks down.
-/

namespace ExtensionHost

/-- How a call ends. -/
inductive Ending where
  | succeeded
  | failed (e : ErrorChain)
  | brokeDown (message : String)
  deriving DecidableEq, Repr

/-- The answer to a call: after how many milliseconds it ends, and how. -/
structure Response where
  delayMs : Nat
  ending : Ending
  deriving DecidableEq, Repr

/-- Success at once. -/
def Response.immediate : Response :=
  ⟨0, .succeeded⟩

end ExtensionHost
