import LocalServer.Address
import LocalServer.Discovery
import LocalServer.Keeper

/-!
# Bootstrap attempts

An attempt turns the wish for a server into an address at which one
answers. If a server answers already, that is all; otherwise the runtime is
looked for, a server is started, and it is waited for until it is healthy
and the keeper takes charge of it.

Between its start and that moment a child belongs to the attempt that has
started it. Whatever interrupts the attempt in that time, the child is
killed and its end is waited for, before the interruption goes on.
-/

namespace LocalServer

open Act

variable {τ : Type} [Seconds τ]

/-- **The settings of an attempt.** -/
structure Attempt (τ : Type) where
  /-- The keeper that starts the server. -/
  keeper : Keeper τ
  /-- The address on the command line. -/
  commandLineUrl : Option String
  /-- The path of the executable, if it is not the program that runs. -/
  executable : Option String
  /-- The time to wait for a server that was started. -/
  patience : τ
  /-- The time between two health checks, which is also the time that a
  check may take. -/
  pollInterval : τ
deriving DecidableEq, Repr

/-- **What an attempt comes to**: a server that answers. -/
structure Ready where
  /-- Its base address. -/
  baseUrl : String
  /-- Whether it was started by this attempt. -/
  spawned : Bool
deriving DecidableEq, Repr

namespace Attempt

/-- An attempt with the usual times. -/
def usual (platform : Platform) (commandLineUrl : Option String) : Attempt τ :=
  ⟨.usual platform, commandLineUrl, none, HealthCheck.patience, HealthCheck.pollInterval⟩

/-- Going on to another phase. -/
def enter (phase : Phase) : Act τ Unit := do
  let old ← look World.phase
  note (.phaseChanged old phase)
  change fun w => { w with phase := phase }

/-- **The base address**, which nobody has checked. -/
def baseUrl (a : Attempt τ) : Act τ String := do
  let x ← look fun w =>
    Address.choose a.commandLineUrl w.environment a.keeper.platform w.files
  consult x

/-- Looking for the runtime. -/
def discover (a : Attempt τ) (baseUrl : String) (resources : Option Path) :
    Act τ LaunchPlan := do
  let x ← look fun w =>
    Discovery.plan baseUrl resources (a.executable.getD w.executable) w.environment
      a.keeper.platform w.files
  consult x

/-- Waiting for a child that was started, and handing it to the keeper. -/
def adopt (a : Attempt τ) (baseUrl : String) (k : ChildId) : Act τ Unit := do
  if ← HealthCheck.await baseUrl a.patience a.pollInterval then
    Keeper.takeCharge k
  else raise (.launch (.silent baseUrl a.patience))

/-- **Starting a server** and waiting for it. -/
def start (a : Attempt τ) (plan : LaunchPlan) : Act τ Ready := do
  enter .spawning
  let k ← (a.keeper.launch plan).onFault Fault.isFailure (enter .failed)
  enter .waitingHealthy
  (a.adopt plan.baseUrl k).onFault (fun _ => true) (do
    Keeper.giveUp k
    enter .failed)
  enter .ready
  pure ⟨plan.baseUrl, true⟩

/-- Looking for the runtime and starting a server, unless one has come up
meanwhile. -/
def discoverAndStart (a : Attempt τ) (baseUrl : String) (resources : Option Path) :
    Act τ Ready := do
  enter .discovering
  let plan ← (a.discover baseUrl resources).onFault Fault.isFailure (enter .failed)
  if ← HealthCheck.check plan.baseUrl a.pollInterval then
    note (.cameUpMeanwhile plan.baseUrl)
    enter .ready
    pure ⟨plan.baseUrl, false⟩
  else a.start plan

/-- **A bootstrap attempt**: afterwards a healthy server answers at the
base address. -/
def makeReady (a : Attempt τ) (resources : Option Path) : Act τ Ready := do
  change fun w => { w with phase := .unchecked }
  let baseUrl ← a.baseUrl
  if BaseUrl.isUsable baseUrl then
    if ← HealthCheck.check baseUrl a.pollInterval then
      note (.alreadyRunning baseUrl)
      enter .ready
      pure ⟨baseUrl, false⟩
    else a.discoverAndStart baseUrl resources
  else
    enter .failed
    raise (.launch (.unusable baseUrl))

end Attempt

end LocalServer
