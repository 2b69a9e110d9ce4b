import LocalServer.Attempt
import LocalServer.CommandLine.Run
import LocalServer.Proofs.Yields

/-!
# Dealings with children

Of all that is seen of a run, the **dealings** are what concerns the
children: the starts, those that were refused among them, and the calls.
Everything else that the program does – looking things up, asking servers,
pausing, giving notices, printing – leaves the children alone: no dealing is
added, and the children and the one that the keeper is in charge of are what
they were (`World.LeavesChildren`).

That relation is a preorder, so an action keeps it as soon as its parts do
(`Act.Keeps`), and the statements of this module are of that form.
-/

namespace LocalServer

open Act

variable {τ : Type}

/-- Whether an event is a dealing with a child: a start, or a call. -/
def Event.isDealing : Event τ → Bool
  | .spawn _ _ _ _ | .call _ _ _ => true
  | _ => false

namespace World

/-- **The dealings with children** so far, in the order of time. -/
def dealings (w : World τ) : List (Event τ) :=
  w.events.filter Event.isDealing

/-- A dealing is added to the dealings, and nothing else is. -/
theorem dealings_record (w : World τ) (e : Event τ) :
    (w.record e).dealings = w.dealings ++ if e.isDealing = true then [e] else [] := by
  rw [dealings, events_record, List.filter_append, List.filter_cons, List.filter_nil]
  rfl

/-- **The children are left alone** between two worlds. -/
structure LeavesChildren (w w' : World τ) : Prop where
  /-- The keeper is in charge of the same child. -/
  kept : w'.kept = w.kept
  /-- The children are what they were. -/
  children : w'.children = w.children
  /-- Nothing has been done to a child. -/
  dealings : w'.dealings = w.dealings

namespace LeavesChildren

instance : IsPreorder (World τ) LeavesChildren where
  refl _ := ⟨rfl, rfl, rfl⟩
  trans _ _ _ h h' :=
    ⟨h'.kept.trans h.kept, h'.children.trans h.children, h'.dealings.trans h.dealings⟩

variable {w w' : World τ}

/-- Each child is what it was. -/
theorem child? (h : LeavesChildren w w') (k : ChildId) : w'.child? k = w.child? k :=
  child?_congr h.children k

/-- An event that is no dealing leaves the children alone. -/
theorem record {e : Event τ} (he : e.isDealing = false) (w : World τ) :
    LeavesChildren w (w.record e) where
  kept := rfl
  children := rfl
  dealings := by rw [dealings_record, he, if_neg Bool.false_ne_true, List.append_nil]

end LeavesChildren

end World

open World

/-! ## Idling

Looking things up, asking servers, giving notices and going on to another
phase is all that an attempt does besides starting a child and handing it
over. A relation that none of it breaks is kept by every part of an attempt
that does nothing else. -/

/-- **A round of the wait for a server** that began at the given time: whether it is
healthy, if the wait is over. -/
def HealthCheck.awaitRound [Seconds τ] (baseUrl : String) (timeout interval start : τ) :
    Act τ (Option Bool) := do
  let now ← look World.clock
  if now - start < timeout then
    if ← check baseUrl interval then
      note (.serverHealthy baseUrl)
      pure (some true)
    else
      Machine.sleep interval
      pure none
  else pure (some false)

/-- The wait is made of such rounds. -/
theorem HealthCheck.await_eq [Seconds τ] (baseUrl : String) (timeout interval : τ) :
    await baseUrl timeout interval
      = look World.clock >>= fun start => loop (awaitRound baseUrl timeout interval start) := rfl

/-- **A relation that idling keeps**: no notice, no health check and no phase
of an attempt breaks it. -/
structure World.Idle [Seconds τ] (R : World τ → World τ → Prop) : Prop where
  /-- A notice keeps it. -/
  note : ∀ w n, R w (w.record (.notice n))
  /-- A phase keeps it. -/
  phase : ∀ (w : World τ) p, R w { w with phase := p }
  /-- Asking a server keeps it. -/
  probe : ∀ url timeout, (Machine.probe url timeout).Keeps R

namespace World.Idle

variable [Seconds τ] {R : World τ → World τ → Prop} [IsPreorder (World τ) R]

omit [IsPreorder (World τ) R] in
theorem keeps_note (h : Idle R) (n : Notice τ) : (Act.note n).Keeps R :=
  Keeps.change fun w => h.note w n

/-- Notices are idle, one after the other. -/
theorem told (h : Idle R) (notices : List (Notice τ)) (w : World τ) : R w (w.told notices) := by
  induction notices generalizing w with
  | nil => exact refl_of R w
  | cons n ns ih => exact trans_of R (h.note w n) (ih (w.record (.notice n)))

/-- A lookup gives notices only. -/
theorem keeps_consult (h : Idle R) {α : Type} (x : Finding τ α) : (consult x).Keeps R := by
  intro w
  rw [yields_consult]
  split
  · exact h.told x.notices w
  · exact h.told x.notices w

theorem keeps_enter (h : Idle R) (phase : Phase) : (Attempt.enter phase).Keeps R :=
  (Keeps.look _).bind fun _ => (h.keeps_note _).bind fun _ => Keeps.change fun w => h.phase w _

theorem keeps_baseUrl (h : Idle R) (a : Attempt τ) : a.baseUrl.Keeps R :=
  (Keeps.look _).bind fun x => h.keeps_consult x

theorem keeps_discover (h : Idle R) (a : Attempt τ) (baseUrl : String)
    (resources : Option Path) : (a.discover baseUrl resources).Keeps R :=
  (Keeps.look _).bind fun x => h.keeps_consult x

theorem keeps_check (h : Idle R) (baseUrl : String) (timeout : τ) :
    (HealthCheck.check baseUrl timeout).Keeps R := by
  refine (h.probe _ _).bind (fun answer => ?_)
  cases answer with
  | status code =>
    dsimp only
    split
    · exact Keeps.pure true
    · exact (h.keeps_note _).bind (fun _ => Keeps.pure false)
  | failed reason => exact (h.keeps_note _).bind (fun _ => Keeps.pure false)
  | broken e => exact Keeps.raise e

/-- A round of the wait for a server is a health check and a pause. -/
theorem keeps_awaitRound (h : Idle R) (hsleep : ∀ pause, (Machine.sleep pause).Keeps R)
    (baseUrl : String) (timeout interval start : τ) :
    (HealthCheck.awaitRound baseUrl timeout interval start).Keeps R := by
  refine (Keeps.look _).bind (fun now => ?_)
  split
  · refine (h.keeps_check baseUrl interval).bind (fun healthy => ?_)
    split
    · exact (h.keeps_note _).bind (fun _ => Keeps.pure _)
    · exact (hsleep interval).bind (fun _ => Keeps.pure _)
  · exact Keeps.pure _

/-- **Waiting for a server** is idling and pausing, however long it takes and
however it ends. -/
theorem keeps_await (h : Idle R) (hsleep : ∀ pause, (Machine.sleep pause).Keeps R)
    (baseUrl : String) (timeout interval : τ) :
    (HealthCheck.await baseUrl timeout interval).Keeps R := by
  rw [HealthCheck.await_eq]
  exact (Keeps.look _).bind fun start =>
    Keeps.loop (h.keeps_awaitRound hsleep baseUrl timeout interval start)

end World.Idle

/-! ## What leaves the children alone -/

/-- A notice is no dealing. -/
theorem Act.keeps_note (n : Notice τ) : (note n).Keeps LeavesChildren :=
  Keeps.change (.record rfl)

namespace Machine

variable [Seconds τ]

/-- **A pause** moves the clock, or is cut short. It keeps every relation that is not
broken by that. -/
theorem keeps_sleep_of {R : World τ → World τ → Prop} {pause : τ}
    (h : ∀ (w : World τ) n now,
      R w { w.record (.sleep pause) with pauses := n, clock := now }) :
    (sleep pause).Keeps R := by
  intro w ending w' hrun
  simp only [run, sleep] at hrun
  split at hrun
  · cases hrun
    exact h w _ _
  · split at hrun <;> cases hrun
    · exact h w _ _
    · exact h w _ _

/-- A pause is nothing to the children. -/
theorem keeps_sleep (pause : τ) : (sleep pause).Keeps LeavesChildren :=
  keeps_sleep_of fun w _ _ => ⟨rfl, rfl, (LeavesChildren.record rfl w).dealings⟩

/-- Asking a server is nothing to the children. -/
theorem keeps_probe (url : String) (timeout : τ) : (probe url timeout).Keeps LeavesChildren := by
  intro w ending w' h
  cases h
  exact ⟨rfl, rfl, (LeavesChildren.record rfl w).dealings⟩

end Machine

/-- **Idling leaves the children alone.** -/
theorem World.idle_leaves [Seconds τ] : Idle (LeavesChildren : World τ → World τ → Prop) where
  note w _ := .record rfl w
  phase _ _ := ⟨rfl, rfl, rfl⟩
  probe := Machine.keeps_probe

namespace HealthCheck

variable [Seconds τ]

theorem keeps_check (baseUrl : String) (timeout : τ) :
    (check baseUrl timeout).Keeps LeavesChildren :=
  idle_leaves.keeps_check baseUrl timeout

theorem keeps_await (baseUrl : String) (timeout interval : τ) :
    (await baseUrl timeout interval).Keeps LeavesChildren :=
  idle_leaves.keeps_await Machine.keeps_sleep baseUrl timeout interval

end HealthCheck

namespace Attempt

/-- The world in which an attempt has gone on to another phase. -/
def entered (phase : Phase) (w : World τ) : World τ :=
  { w.record (.notice (.phaseChanged w.phase phase)) with phase := phase }

/-- To go on to another phase is always possible. -/
@[simp] theorem yields_enter (phase : Phase) {w : World τ} {Q : Unit → World τ → Prop}
    {E : Fault τ → World τ → Prop} : (enter phase).Yields w Q E ↔ Q () (entered phase w) := by
  simp only [enter, yields_bind, yields_look, yields_note, yields_change, entered]

theorem leaves_entered (phase : Phase) (w : World τ) : LeavesChildren w (entered phase w) :=
  ⟨rfl, rfl, (LeavesChildren.record rfl w).dealings⟩

theorem keeps_enter (phase : Phase) : (enter phase : Act τ Unit).Keeps LeavesChildren :=
  fun w => (yields_enter phase).mpr (leaves_entered phase w)

theorem keeps_baseUrl [Seconds τ] (a : Attempt τ) : a.baseUrl.Keeps LeavesChildren :=
  idle_leaves.keeps_baseUrl a

theorem keeps_discover [Seconds τ] (a : Attempt τ) (baseUrl : String) (resources : Option Path) :
    (a.discover baseUrl resources).Keeps LeavesChildren :=
  idle_leaves.keeps_discover a baseUrl resources

end Attempt

namespace CommandLine

theorem keeps_print (render : Renderer τ) (markup : String) :
    (print render markup).Keeps LeavesChildren := by
  unfold print
  split
  · exact Keeps.change (.record rfl)
  · exact Keeps.raise _

theorem keeps_browse (url : String) : (browse url : Act τ Unit).Keeps LeavesChildren := by
  refine (Keeps.change (.record rfl)).bind (fun _ => (Keeps.look _).bind (fun browser => ?_))
  cases browser with
  | opens => exact Keeps.pure ()
  | absent => exact keeps_note _
  | fails reason => exact keeps_note _

theorem keeps_announce (render : Renderer τ) (ready : Ready) :
    (announce render ready).Keeps LeavesChildren :=
  (keeps_print render _).bind fun _ => Keeps.pure _

theorem keeps_degrade [Seconds τ] (render : Renderer τ) (a : Attempt τ) (e : LaunchError τ) :
    (degrade render a e).Keeps LeavesChildren :=
  (keeps_note _).bind fun _ => a.keeps_baseUrl.bind fun _ =>
    (keeps_print render _).bind fun _ => Keeps.pure _

theorem keeps_register : (register : Act τ Unit).Keeps LeavesChildren :=
  (Keeps.change (.record rfl)).bind fun _ => (Keeps.change (.record rfl)).bind fun _ =>
    Keeps.change fun _ => ⟨rfl, rfl, rfl⟩

end CommandLine

end LocalServer
