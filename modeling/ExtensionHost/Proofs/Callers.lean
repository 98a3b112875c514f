import ExtensionHost.Proofs.Tasks
import ExtensionHost.Proofs.Turns

/-!
# Hosts that run

What is asked of a host keeps it as its tasks do. So the registry stays sound however
calls and tasks overlap, and each task runs beside others that keep the host.
-/

namespace ExtensionHost

open Program

variable {α : Type}

/-! ## What is asked of a host -/

theorem spawnEach_keepsHost {own : Bool} {job : α → Job} :
    ∀ as : List α, (spawnEach own job as).KeepsHost
  | [] => does_done _
  | _ :: as => does_spawn fun _ => does_bind (spawnEach_keepsHost as) fun _ => does_done _

theorem awaitTask_keepsHost (number : Nat) (deadline : Option Nat) :
    (awaitTask number deadline).KeepsHost :=
  does_wait (ask_keepsHost _)

theorem handleInTime_keepsHost (e : Event) (timeoutMs : Nat) :
    (handleInTime e timeoutMs).KeepsHost := by
  refine does_bind (quiet_keepsHost works_now) fun start => ?_
  refine does_bind (does_spawn fun number => awaitTask_keepsHost number _) fun outcome => ?_
  exact does_done _

theorem operateEach_keepsHost (timeoutMs : Nat) (events : List Event) (r : BatchResult) :
    (operateEach timeoutMs events r).KeepsHost := by
  induction events generalizing r with
  | nil => exact does_done r
  | cons e rest ih =>
    refine does_bind (handleInTime_keepsHost e timeoutMs) fun result => ?_
    exact does_bind (noteFailure_keepsHost _ result) fun _ => ih _

theorem operate_keepsHost (change : Change) (ids : List String) (timeoutMs : Nat) :
    (operate change ids timeoutMs).KeepsHost :=
  does_bind (ask_keepsHost _) fun events => operateEach_keepsHost timeoutMs events .empty

theorem apply_keepsHost (change : Change) (ds : List Descriptor) (timeoutMs : Nat) :
    (apply change ds timeoutMs).KeepsHost :=
  operateEach_keepsHost timeoutMs _ .empty

theorem stopAll_keepsHost : stopAll.KeepsHost := by
  refine does_bind (ask_keepsHost _) fun ids => does_bind (spawnEach_keepsHost ids) fun tasks => ?_
  refine does_bind (does_wait (does_done ())) fun _ => ?_
  refine does_bind (ask_keepsHost _) fun failures => ?_
  exact does_bind (noteAll_keepsHost _) fun _ => does_done _

theorem collectDrains_keepsHost (deadline timeoutMs left : Nat) (tasks : List (Nat × String))
    (r : DrainReport) : (collectDrains deadline timeoutMs left tasks r).KeepsHost := by
  induction left generalizing tasks r with
  | zero => exact does_done r
  | succ left ih =>
    refine does_wait (does_bind (ask_keepsHost _) fun ended => ?_)
    cases ended with
    | some ended => exact does_bind (noteAll_keepsHost _) fun _ => ih _ _
    | none => exact does_bind (noteAll_keepsHost _) fun _ => does_done _

theorem drainAll_keepsHost (timeoutMs : Nat) : (drainAll timeoutMs).KeepsHost := by
  refine does_bind (ask_keepsHost _) fun order => ?_
  refine does_bind (quiet_keepsHost works_now) fun start => ?_
  exact does_bind (spawnEach_keepsHost order) fun tasks => collectDrains_keepsHost _ _ _ _ _

theorem startWatch_keepsHost : startWatch.KeepsHost := by
  refine does_bind (ask_keepsHost _) fun interval => does_bind (ask_keepsHost _) fun running => ?_
  split
  · exact noteAll_keepsHost _
  split
  · exact does_done ()
  · refine does_bind (change_keepsHost (fun _ => rfl) fun _ => rfl) fun _ => ?_
    exact does_spawn fun number => change_keepsHost (fun _ => rfl) fun _ => rfl

theorem stopWatch_keepsHost : stopWatch.KeepsHost := by
  refine does_bind (ask_keepsHost _) fun running => ?_
  cases running with
  | false => exact does_done ()
  | true =>
    refine does_bind (step_keepsHost (fun _ => rfl) fun _ => rfl) fun task => ?_
    cases task with
    | none => exact does_done ()
    | some number => exact does_bind (awaitTask_keepsHost number none) fun _ => noteAll_keepsHost _

theorem startHost_keepsHost : startHost.KeepsHost := by
  refine does_bind (step_keepsHost (fun _ => rfl) fun _ => rfl) fun events => ?_
  refine does_bind (handleEach_keepsHost events .empty) fun result => ?_
  refine does_bind (ask_keepsHost _) fun wanted => ?_
  cases wanted with
  | true => exact does_bind startWatch_keepsHost fun _ => does_done result
  | false => exact does_bind (does_done ()) fun _ => does_done result

theorem shutdownHost_keepsHost : shutdownHost.KeepsHost :=
  does_bind stopWatch_keepsHost fun _ => does_bind (ask_keepsHost _) fun timeoutMs =>
    drainAll_keepsHost timeoutMs

/-! ## Calls and tasks together -/

theorem hostJobs_keep : hostJobs.Keep Host.Later :=
  ⟨Job.program_keepsHost, fun _ _ _ => .of_eq rfl rfl⟩

variable {m : HostMachine} {a : Task Host Job (Except HostError Unit)} {caller : HostProgram α}

/-- Whatever is called, and whichever tasks go on meanwhile, the host is as it may be later. -/
theorem HostMachine.run_later (hm : m.Keeps Host.Later) (hc : caller.KeepsHost) :
    (m.run caller).2.Keeps Host.Later ∧ m.state.Later (m.run caller).2.state := by
  obtain ⟨hkeeps, xs, hxs⟩ := (run_goes hostJobs_keep hm hc).seen hostJobs_keep hm
  exact ⟨hkeeps, hxs.chain Host.Later.refl Host.Later.trans hxs.of_others⟩

/-- A host stays sound through calls that overlap with its tasks. -/
theorem HostMachine.run_sound (hm : m.Keeps Host.Later) (hs : m.state.Sound)
    (hc : caller.KeepsHost) : (m.run caller).2.state.Sound :=
  (run_later hm hc).2.sound hs

/-- Each task of a host runs beside others that keep the host. -/
theorem HostMachine.run_comesTo (hm : m.Keeps Host.Later) (hc : caller.KeepsHost)
    (ha : a ∈ m.tasks) : a.ComesTo hostJobs Host.Later (m.run caller).2 m.time m.state :=
  ExtensionHost.run_comesTo hostJobs_keep hm hc ha

end ExtensionHost
