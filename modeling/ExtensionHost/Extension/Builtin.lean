import ExtensionHost.Extension.Factory

/-!
# Extensions that come with the host

The synthetic extension stands in for one that cannot be constructed, and serves
nothing. The echo extension is the smallest one that serves something.
-/

namespace ExtensionHost

/-! ## Synthetic extensions -/

/-- The version of every synthetic extension. -/
def syntheticVersion : String := "1.0.0"

/-- The author of every synthetic extension. -/
def syntheticAuthor : String := "System"

/-- The description of the synthetic extension that stands in for another one. -/
def Descriptor.synthetic (d : Descriptor) : Descriptor :=
  { d with
    version := syntheticVersion
    author := some syntheticAuthor
    name := if d.name.isEmpty then d.id else d.name }

/-- The synthetic extension that stands in for another one. -/
def Blueprint.synthetic (d : Descriptor) : Blueprint :=
  { descriptor := d.synthetic
    exposesContext := true
    conduct := .idle
    counters := .zero }

/-! ## The echo extension -/

/-- The echo extension counts its traffic and closes its connections on demand. -/
def Conduct.echo : Conduct :=
  { Conduct.idle with hasStatistics := true, hasHooks := true, closesConnections := true }

/-- The echo extension with a description. -/
def Blueprint.echo (d : Descriptor) : Blueprint :=
  { descriptor := d
    exposesContext := true
    conduct := .echo
    counters := .zero }

/-- The factory of the echo extension, which may be given a greeting. -/
def Factory.echo : Factory :=
  { entryPoint := "echo"
    constructors := [
      ⟨[.optional .text], fun d _ => .ok (.echo d)⟩,
      ⟨[], fun d _ => .ok (.echo d)⟩]
    journaled := false }

end ExtensionHost
