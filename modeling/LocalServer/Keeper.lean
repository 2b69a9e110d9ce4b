import LocalServer.HealthCheck
import LocalServer.LaunchPlan
import LocalServer.Platform

/-!
# The keeper of the server

The keeper starts servers and stops them. It is in charge of **at most one
child**: a child that has proved healthy, and that nobody else looks after.
To shut down is to let go of that child and then to stop it: it is asked to
stop, where the platform can ask, and killed if it has not exited when the
time is up.

A child that the keeper never takes charge of is killed at once, and its
end is waited for.
-/

namespace LocalServer

open Act

variable {τ : Type} [Seconds τ]

/-- **The settings of a keeper.** -/
structure Keeper (τ : Type) where
  /-- The platform it works on. -/
  platform : Platform
  /-- The time that a child has to exit when it is stopped. -/
  shutdownTimeout : τ
  /-- The time between two looks at a child that is being stopped. -/
  pollInterval : τ
deriving DecidableEq, Repr

namespace Keeper

/-- The usual time that a child has to exit. -/
def usualTimeout : τ := 10.0

/-- A keeper with the usual times. -/
def usual (platform : Platform) : Keeper τ :=
  ⟨platform, usualTimeout, HealthCheck.pollInterval⟩

/-! ## Starting -/

/-- A refusal of the operating system is a reason to give up; another fault
stays what it is. -/
def startError : Fault τ → Fault τ
  | .failure kind message =>
    if kind.isSystem then .launch (.refused message) else .failure kind message
  | e => e

/-- **Starting a server** as planned. -/
def launch (keeper : Keeper τ) (plan : LaunchPlan) : Act τ ChildId := do
  note (.starting plan.command plan.root)
  let k ← (Machine.spawn plan.command plan.root.toText keeper.platform.creationFlags?).rescue
    fun e => some (raise (startError e))
  let pid ← look (·.pid k)
  note (.started pid)
  pure k

/-! ## The child in charge -/

/-- The keeper is in charge of a child already. -/
def alreadyInCharge (kept new : Int) : Fault τ :=
  .failure .illegalState <|
    "already supervising PID " ++ toString kept ++ ", refusing to track PID " ++ toString new

/-- **Taking charge of a child**, unless there is one already. -/
def takeCharge (k : ChildId) : Act τ Unit := do
  let pid ← look (·.pid k)
  match ← look World.keptPid with
  | some kept => raise (alreadyInCharge kept pid)
  | none =>
    change fun w => { w with kept := some k }
    note (.inCharge pid)

/-- Whether the child in charge, if there is one, is running. -/
def isAlive : Act τ Bool := do
  match ← look World.kept with
  | none => pure false
  | some k =>
    let status ← Machine.poll k
    pure status.isNone

/-! ## Stopping -/

/-- **Killing a child for good**: it is killed, unless it is gone, and its
end is waited for. -/
def killAndWait (k : ChildId) : Act τ Unit := do
  (Machine.kill k).rescue fun e => if Machine.isProcessGone e then some (pure ()) else none
  Machine.wait k

/-- **Giving up on a child** that the keeper never took charge of. -/
def giveUp (k : ChildId) : Act τ Unit := do
  let pid ← look (·.pid k)
  note (.killingUnhealthy pid)
  killAndWait k

/-- **Asking a child to stop**, where the platform can ask. -/
def askToStop (platform : Platform) (k : ChildId) : Act τ Unit := do
  let pid ← look (·.pid k)
  if platform.canAskToStop then
    (do Machine.ask k; note (.askedToStop pid)).rescue fun e =>
      if Machine.isProcessGone e then some (note (.goneBeforeAsking pid)) else none
  else note (.cannotAsk pid)

/-- One round of the wait for a child to exit, which began at the given time:
whether it has exited, if the wait is over. -/
def awaitRound (k : ChildId) (timeout interval start : τ) : Act τ (Option Bool) := do
  let now ← look World.clock
  if now - start < timeout then
    if (← Machine.poll k).isSome then pure (some true)
    else
      Machine.sleep interval
      pure none
  else pure (some false)

/-- **Waiting for a child to exit**; `false` if the time is up before. -/
def awaitExit (k : ChildId) (timeout interval : τ) : Act τ Bool := do
  let start ← look World.clock
  loop (awaitRound k timeout interval start)

/-- Stopping a child that was running when it was last looked at. -/
def stop (keeper : Keeper τ) (k : ChildId) : Act τ Unit := do
  let pid ← look (·.pid k)
  note (.stopping pid)
  askToStop keeper.platform k
  if ← awaitExit k keeper.shutdownTimeout keeper.pollInterval then
    note (.stopped pid)
  else
    note (.notStopped pid keeper.shutdownTimeout)
    killAndWait k
    note (.killed pid)

/-- Letting go of the child in charge. -/
def release : Act τ (Option ChildId) := do
  let kept ← look World.kept
  change fun w => { w with kept := none }
  pure kept

/-- **Shutting down**: the keeper lets go of the child in charge and stops
it, unless it has exited by itself. -/
def shutdown (keeper : Keeper τ) : Act τ Unit := do
  match ← release with
  | none => pure ()
  | some k =>
    match ← Machine.poll k with
    | some code =>
      let pid ← look (·.pid k)
      note (.alreadyExited pid code)
    | none => keeper.stop k

end Keeper

end LocalServer
