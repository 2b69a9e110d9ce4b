import LocalServer.World.Act

/-!
# What the machine does

The actions that reach out of the program: to pause, to ask a server, to
start a process, and the four calls on a process. Each is seen in the
journal before anything else happens.
-/

namespace LocalServer.Machine

open Act

variable {τ : Type} [Seconds τ]

/-- The number of the signal to terminate. -/
def terminate : Nat := 15

/-- What is raised by an interruption, if anything is. -/
def raisedBy (w : World τ) : Interruption τ → Option (Fault τ)
  | .fault e => some e
  | .terminate => w.onTerminate

/-- **A pause.** It moves the clock, unless it is one in which an
interruption comes: then the interruption is all that happens. -/
def sleep (pause : τ) : Act τ Unit := fun w =>
  let w := { w.record (.sleep pause) with pauses := w.pauses + 1 }
  match w.interruptions.lookup w.pauses with
  | none => some (.returned (), { w with clock := w.clock + pause })
  | some interruption =>
    match raisedBy w interruption with
    | some e => some (.raised e, w)
    | none => some (.returned (), w)

/-- The time at which an answer is there that is asked for now. -/
def arrival (p : Probe τ) (now : τ) : τ :=
  match p.cost with
  | some cost => now + cost
  | none => now

/-- **Asking a server**, with a bound on the time that it may take. The
answer is the next one to come, or the latest once more. -/
def probe (url : String) (timeout : τ) : Act τ (Answer τ) := fun w =>
  let (next, rest) := match w.probes with
    | p :: ps => (some p, ps)
    | [] => (w.lastProbe, [])
  let p := next.getD .nobody
  let w := w.record (.probe url timeout false p.answer)
  some (.returned p.answer, { w with
    probes := rest
    lastProbe := next
    clock := arrival p w.clock })

/-- **Starting a process.** -/
def spawn (command : List String) (directory : String) (flags : Option Nat) :
    Act τ ChildId := fun w =>
  let k := w.children.length
  let script := (w.scripts[k]?).getD .plain
  match script.refusal with
  | some e =>
    some (.raised e, { w.record (.spawn command directory flags none) with
      children := w.children ++ [none] })
  | none =>
    some (.returned k, { w.record (.spawn command directory flags (some k)) with
      children := w.children ++ [some (.born script k w.clock)] })

/-- Letting a call on a child be seen. -/
def recordCall (k : ChildId) (call : Call) : Act τ Unit :=
  change fun w => w.record (.call k (w.pid k) call)

/-- A process that is not there any more. -/
def processGone : Fault τ :=
  .failure .processNotFound ""

/-- Whether a fault says that a process is not there any more. -/
def isProcessGone : Fault τ → Bool
  | .failure .processNotFound _ => true
  | _ => false

/-- **Asking for the status** of a child, which is collected if the child
is dead. -/
def poll (k : ChildId) : Act τ (Option Int) := do
  recordCall k .poll
  fun w => match w.child? k with
    | some c =>
      let c := c.reap w.clock
      some (.returned c.status, w.setChild k c)
    | none => some (.returned none, w)

/-- **Asking a child to stop**, by the signal to terminate. -/
def ask (k : ChildId) : Act τ Unit := do
  recordCall k (.signal terminate)
  fun w => match w.child? k with
    | some c =>
      match c.onTerm with
      | .gone => some (.raised processGone, w)
      | _ => some (.returned (), w.setChild k (c.asked w.clock))
    | none => some (.returned (), w)

/-- **Killing a child.** -/
def kill (k : ChildId) : Act τ Unit := do
  recordCall k .kill
  fun w => match w.child? k with
    | some c =>
      if c.goneOnKill then some (.raised processGone, w)
      else some (.returned (), w.setChild k (c.struck w.clock))
    | none => some (.returned (), w)

/-- **Waiting for a child** until its status is known. -/
def wait (k : ChildId) : Act τ Unit := do
  recordCall k .wait
  fun w => match w.child? k with
    | some c =>
      let (time, c) := c.awaited w.clock
      some (.returned (), { w.setChild k c with clock := time })
    | none => some (.returned (), w)

end LocalServer.Machine
