import ExtensionHost.Host.Operation
import ExtensionHost.Host.Watch

/-!
# Running a host

The work of the tasks of a host, and the start and the shutdown of the whole.
-/

namespace ExtensionHost

/-- The program of a job. -/
def Job.program : Job → HostProgram (Except HostError Unit)
  | .handle event => ExtensionHost.handle event
  | .drain number timeoutMs => do return Except.asHostError (← ExtensionHost.drain number timeoutMs)
  | .stop id => do return Except.asHostError (← stopRegistered id)
  | .watch nextTick => watchJob nextTick

/-- The jobs of a host. -/
def hostJobs : Jobs Host Job (Except HostError Unit) :=
  ⟨Job.program, Host.finish⟩

/-- A host with its tasks. -/
abbrev HostMachine := Machine Host Job (Except HostError Unit)

/-- Runs a program of a host to its end, and then every task that is ready. -/
def HostMachine.run {α : Type} (m : HostMachine) (p : HostProgram α) : CallEnd α × HostMachine :=
  Machine.run hostJobs p m

/-- Starts a host: enables what is on disk, and then the watch, if it is wanted. -/
def startHost : HostProgram BatchResult := do
  let events ← Program.step fun h =>
    let (events, notices) := h.settings.layout.scan h.files
    (events, h.notice notices)
  let result ← handleBatch events
  let wanted ← Program.ask (·.settings.policy.hotReload)
  if wanted then startWatch else .done ()
  return result

/-- Shuts a host down: ends the watch and drains what is registered. -/
def shutdownHost : HostProgram DrainReport := do
  stopWatch
  let timeoutMs ← Program.ask (·.settings.policy.drainTimeoutMs)
  drainAll timeoutMs

end ExtensionHost
