import LocalServer.Environment
import LocalServer.FileTree.Change
import LocalServer.Notice
import LocalServer.World.Child

/-!
# The world of a run

A run takes place in a **world**: a clock, servers that answer when they
are asked, processes, files, variables, a user who may interrupt, and a
browser. What will happen is settled beforehand: the answers to come, the
children that will be started and what they will do, and the pauses in
which an interruption comes. The world also holds the two things that are
remembered from one attempt to the next: the child that the keeper is in
charge of, and the phase of the last attempt.

All that can be seen from outside is written into a **journal**, each event
with its time and the latest first. `World.timeline` is the journal in the
order of time, and `World.events` is the timeline without the times.
-/

namespace LocalServer

variable {τ : Type}

/-- **An answer** to a health check. -/
inductive Answer (τ : Type) where
  /-- A status. -/
  | status (code : Int)
  /-- No answer, for a reason that is to be expected of a server that is
  not there. -/
  | failed (reason : String)
  /-- A fault that has nothing to do with the server. -/
  | broken (fault : Fault τ)
deriving DecidableEq, Repr

/-- An answer that is to come, and the time that it takes. -/
structure Probe (τ : Type) where
  /-- The time until the answer, if it takes any. -/
  cost : Option τ
  /-- The answer. -/
  answer : Answer τ
deriving DecidableEq, Repr

/-- The answer when nobody listens. -/
def Probe.nobody : Probe τ :=
  ⟨none, .failed "connection refused"⟩

/-- **What comes in a pause**: a fault, or the signal to terminate, which
raises what the program has said it shall raise. -/
inductive Interruption (τ : Type) where
  | fault (fault : Fault τ)
  | terminate
deriving DecidableEq, Repr

/-- **What a browser does** when it is asked to open an address. -/
inductive Browser where
  /-- It opens it. -/
  | opens
  /-- There is none. -/
  | absent
  /-- It cannot be started. -/
  | fails (reason : String)
deriving DecidableEq, Repr

/-- A child is named by its place in the order of starts. -/
abbrev ChildId := Nat

/-- **A call** on a child. -/
inductive Call where
  /-- Its status is asked for. -/
  | poll
  /-- It is sent a signal. -/
  | signal (number : Nat)
  /-- It is killed. -/
  | kill
  /-- Its end is waited for. -/
  | wait
deriving DecidableEq, Repr

/-- **What can be seen of a run.** -/
inductive Event (τ : Type) where
  /-- A pause of a length. -/
  | sleep (pause : τ)
  /-- A health check: its address, how long it may take, whether it may go
  through a proxy of the environment, and what came back. -/
  | probe (url : String) (timeout : τ) (viaProxy : Bool) (answer : Answer τ)
  /-- A process is to be started: its command line, its directory, the
  flags it is started with, and the child, unless it was refused. -/
  | spawn (command : List String) (directory : String) (flags : Option Nat)
      (child : Option ChildId)
  /-- A call on a child, which is shown by its number. -/
  | call (child : ChildId) (pid : Int) (call : Call)
  /-- A notice. -/
  | notice (notice : Notice τ)
  /-- The program has asked to be called when it ends. -/
  | atExit
  /-- The program has asked to be called on a signal. -/
  | onSignal (number : Nat)
  /-- A line for the user. -/
  | print (text : String)
  /-- The browser is asked to open an address. -/
  | openBrowser (url : String)
deriving DecidableEq, Repr

/-- **A world.** -/
structure World (τ : Type) where
  /-- The time. -/
  clock : τ
  /-- The answers to come. -/
  probes : List (Probe τ)
  /-- The latest answer; when no more are to come it is repeated. -/
  lastProbe : Option (Probe τ)
  /-- What the children will do, in the order of their starts. -/
  scripts : List (ChildScript τ)
  /-- The children so far, in the order of their starts; a start that was
  refused leaves a gap. -/
  children : List (Option (Child τ))
  /-- The interruptions to come, each with the number of the pause in which
  it comes. -/
  interruptions : List (Nat × Interruption τ)
  /-- The pauses so far. -/
  pauses : Nat
  /-- The fault that the signal to terminate raises, if that is said. -/
  onTerminate : Option (Fault τ)
  /-- The files. -/
  files : FileTree
  /-- The variables. -/
  environment : Environment
  /-- What the operating system calls itself. -/
  system : String
  /-- The path of the program that runs. -/
  executable : String
  /-- What the browser does. -/
  browser : Browser
  /-- The child that the keeper is in charge of. -/
  kept : Option ChildId
  /-- The phase of the last bootstrap attempt. -/
  phase : Phase
  /-- What was seen so far and when, the latest first. -/
  journal : List (τ × Event τ)

namespace World

/-- **A still world**: nothing has happened in it, and nothing will unless
more is said. Nobody answers, children run for ever, and nobody
interrupts. -/
def still (now : τ) (files : FileTree) (environment : Environment) : World τ where
  clock := now
  probes := []
  lastProbe := none
  scripts := []
  children := []
  interruptions := []
  pauses := 0
  onTerminate := none
  files := files
  environment := environment
  system := "Linux"
  executable := ""
  browser := .opens
  kept := none
  phase := .unchecked
  journal := []

/-- **What was seen and when**, in the order of time. -/
def timeline (w : World τ) : List (τ × Event τ) :=
  w.journal.reverse

/-- **What was seen**, in the order of time. -/
def events (w : World τ) : List (Event τ) :=
  w.timeline.map Prod.snd

/-- The world with one more event, which happens now. -/
def record (w : World τ) (e : Event τ) : World τ :=
  { w with journal := (w.clock, e) :: w.journal }

@[simp] theorem timeline_record (w : World τ) (e : Event τ) :
    (w.record e).timeline = w.timeline ++ [(w.clock, e)] := by
  simp [timeline, record]

@[simp] theorem events_record (w : World τ) (e : Event τ) :
    (w.record e).events = w.events ++ [e] := by
  simp [events]

/-- The world in which notices have been given, one after the other. -/
def told (w : World τ) (notices : List (Notice τ)) : World τ :=
  notices.foldl (fun w n => w.record (.notice n)) w

/-- Notices are seen in the journal, and nowhere else. -/
theorem told_eq (w : World τ) (notices : List (Notice τ)) :
    w.told notices = { w with
      journal := (notices.map fun n => (w.clock, .notice n)).reverse ++ w.journal } := by
  induction notices generalizing w with
  | nil => rfl
  | cons n ns ih =>
    show (w.record (.notice n)).told ns = _
    rw [ih, List.map_cons, List.reverse_cons, List.append_assoc]
    rfl

/-- A child, if it was started. -/
def child? (w : World τ) (k : ChildId) : Option (Child τ) :=
  w.children[k]?.join

/-- A child is known by the list of children. -/
theorem child?_congr {w w' : World τ} (h : w'.children = w.children) (k : ChildId) :
    w'.child? k = w.child? k := by
  rw [child?, h, child?]

/-- The number of a child, as it is shown. -/
def pid (w : World τ) (k : ChildId) : Int :=
  ((w.child? k).map Child.pid).getD 0

/-- The world with a child changed. -/
def setChild (w : World τ) (k : ChildId) (c : Child τ) : World τ :=
  { w with children := w.children.set k (some c) }

/-- A child that was started and is changed is what it was changed to. -/
theorem child?_setChild_self {w : World τ} {k : ChildId} (h : (w.child? k).isSome = true)
    (c : Child τ) : (w.setChild k c).child? k = some c := by
  have hk : k < w.children.length := Nat.lt_of_not_le fun hk => by
    simp [child?, List.getElem?_eq_none hk] at h
  simp [child?, setChild, hk]

/-- The other children stay what they were. -/
theorem child?_setChild_of_ne {k j : ChildId} (h : j ≠ k) (w : World τ) (c : Child τ) :
    (w.setChild k c).child? j = w.child? j := by
  simp [child?, setChild, List.getElem?_set_ne (Ne.symm h)]

/-- The number of the child that the keeper is in charge of. -/
def keptPid (w : World τ) : Option Int :=
  w.kept.map w.pid

end World

end LocalServer
