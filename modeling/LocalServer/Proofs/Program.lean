import LocalServer.Proofs.Custody

/-!
# The program leaves nothing behind

Whatever ends the work of the program – a server that exits, an address that
cannot be used, an interruption while a server is waited for or watched – the
shutdown comes after it. Up to the shutdown no child gets out of custody, so
after it nobody is in charge of a child, and every child that was started has
a status.

A server that answered already is none of the program's business. If one is
found, then no child is started, called or watched.
-/

namespace LocalServer.CommandLine

open Act World

variable {τ : Type} [Seconds τ] (render : Renderer τ)

/-! ## Up to the shutdown -/

/-- What is done after a launch error is nothing to the children. -/
theorem keeps_of_degrade (a : Attempt τ) (e : Fault τ) (y : Act τ String)
    (h : (match e with
      | .launch e => some (degrade render a e)
      | _ => none) = some y) : y.Keeps LeavesChildren := by
  split at h
  · rw [← Option.some.inj h]
    exact keeps_degrade render a _
  · cases h

omit [Seconds τ] in
/-- And neither is what is done after an interruption from the keyboard. -/
theorem keeps_of_interrupted (e : Fault τ) (y : Act τ Unit)
    (h : (match e with
      | .interrupted => some (print render "[dim]Stopping Suwayomi server...[/dim]")
      | _ => none) = some y) : y.Keeps LeavesChildren := by
  split at h
  · rw [← Option.some.inj h]
    exact keeps_print render _
  · cases h

theorem holdsOn_address (a : Attempt τ) (resources : Option Path) :
    (address render a resources).Keeps HoldsOn :=
  Keeps.rescue
    ((a.holdsOn_makeReady resources).bind fun ready => (keeps_announce render ready).holdsOn)
    fun e y h => (keeps_of_degrade render a e y h).holdsOn

/-- **While a server is watched** the keeper holds on to it, however long
that is and whatever interrupts it. -/
theorem holdsOn_watch : (watch : Act τ Unit).Keeps HoldsOn := by
  refine Keeps.loop (Keeper.holdsOn_isAlive.bind (fun alive => ?_))
  split
  · exact (Machine.keeps_sleep _).holdsOn.bind fun _ => Keeps.pure _
  · exact Keeps.pure _

theorem holdsOn_attend : (attend render).Keeps HoldsOn := by
  refine (Keeps.look _).bind (fun kept => ?_)
  split
  · exact (keeps_print render _).holdsOn.bind fun _ => holdsOn_watch.bind fun _ =>
      (keeps_print render _).holdsOn
  · exact Keeps.pure ()

/-- **In all its work** the program holds on to the server in charge. -/
theorem holdsOn_work (a : Attempt τ) (o : Options) : (work render a o).Keeps HoldsOn := by
  refine (holdsOn_address render a o.resources).bind (fun baseUrl => ?_)
  split
  · exact (keeps_browse baseUrl).holdsOn.bind fun _ => holdsOn_attend render
  · exact holdsOn_attend render

theorem holdsOn_workUntilInterrupted (a : Attempt τ) (o : Options) :
    (workUntilInterrupted render a o).Keeps HoldsOn :=
  (holdsOn_work render a o).rescue fun e y h => (keeps_of_interrupted render e y h).holdsOn

/-! ## A server that answered already -/

variable {w w₁ w' : World τ}

/-- Nothing is watched if nobody is in charge. -/
theorem yields_attend_of_free (hfree : w.kept = none) {Q : Unit → World τ → Prop}
    {E : Fault τ → World τ → Prop} : (attend render).Yields w Q E ↔ Q () w := by
  rw [attend, yields_bind, yields_look, hfree]
  exact yields_pure ()

/-- Whoever finds a server leaves the children alone, and so does telling of
it. -/
theorem leaves_address_of_found {a : Attempt τ} {resources : Option Path} {baseUrl : String}
    (hready : (a.makeReady resources).run w = some (.returned ⟨baseUrl, false⟩, w₁)) :
    (address render a resources).Yields w (fun _ => LeavesChildren w)
      (fun _ => LeavesChildren w) := by
  have hfound : LeavesChildren w w₁ := a.settles_makeReady resources w _ w₁ hready
  refine Keeps.rescue_after (yields_bind.mpr ?_) (keeps_of_degrade render a)
  rw [yields_of_returned hready]
  exact (keeps_announce render _).after hfound

/-- **The work with a server that was found** leaves the children alone. -/
theorem leaves_work_of_found {a : Attempt τ} {o : Options} {baseUrl : String}
    (hfree : w.kept = none)
    (hready : (a.makeReady o.resources).run w = some (.returned ⟨baseUrl, false⟩, w₁)) :
    (workUntilInterrupted render a o).Yields w (fun _ => LeavesChildren w)
      (fun _ => LeavesChildren w) := by
  have hattend : ∀ v : World τ, LeavesChildren w v → (attend render).Yields v
      (fun _ => LeavesChildren w) (fun _ => LeavesChildren w) :=
    fun v hv => (yields_attend_of_free render (hv.kept.trans hfree)).mpr hv
  refine Keeps.rescue_after (yields_bind.mpr ?_) (keeps_of_interrupted render)
  refine (leaves_address_of_found render hready).mono (fun url w₂ h₂ => ?_) (fun _ _ h => h)
  split
  · exact yields_bind.mpr (((keeps_browse url).after h₂).mono
      (fun _ w₃ h₃ => hattend w₃ h₃) (fun _ _ h => h))
  · exact hattend w₂ h₂

/-! ## The whole program -/

omit [Seconds τ] in
/-- A world in which nobody is in charge has all later children in
custody. -/
theorem custody_of_free (hfree : w.kept = none) : Custody w.children.length w := by
  refine ⟨fun k c hk hc => ?_, fun k hk => ?_⟩
  · rw [World.child?, List.getElem?_eq_none hk] at hc
    cases hc
  · rw [hfree] at hk
    cases hk

/-- **The program leaves no child behind.** Whatever its options are, whatever
its renderer makes of the lines for the user, and however it ends, a shutdown
comes after its work. If no pause of that
shutdown was interrupted, then nobody is in charge of a child any more, and
every child that the program has started has a status. And if the attempt has
found a server that answered already, then no child was started or called at
all. -/
theorem main_leaves_no_child_behind (o : Options) {w w' : World τ} {ending : Ending τ Unit}
    (hfree : w.kept = none) (hrun : (main render o).run w = some (ending, w')) :
    ∃ ending₁ w₁ ending₂,
      (do register; workUntilInterrupted render (attempt o w) o).run w = some (ending₁, w₁) ∧
      (attempt o w).keeper.shutdown.run w₁ = some (ending₂, w') ∧
      (Quiet w₁ w' → w'.kept = none ∧ ∀ k c, w.children.length ≤ k → w'.child? k = some c →
        c.status.isSome = true) ∧
      ∀ baseUrl w₂,
        (do register; (attempt o w).makeReady o.resources).run w
          = some (.returned ⟨baseUrl, false⟩, w₂) →
        w'.dealings = w.dealings := by
  obtain ⟨w₀, hreg⟩ : ∃ w₀, (register : Act τ Unit).run w = some (.returned (), w₀) := ⟨_, rfl⟩
  have hleaves : LeavesChildren w w₀ := keeps_register.of_run hreg
  rw [main, run_bind_of_returned (run_look _ w), run_bind_of_returned hreg] at hrun
  obtain ⟨ending₁, w₁, ending₂, hwork, hshut⟩ := exists_of_run_ensuring hrun
  refine ⟨ending₁, w₁, ending₂, (run_bind_of_returned hreg _).trans hwork, hshut, ?_, ?_⟩
  · -- all that the program has started is in custody when the shutdown begins
    intro hq
    have hcustody : Custody w.children.length w₁ :=
      ((holdsOn_workUntilInterrupted render _ o).of_run hwork).custody _
        (hleaves.holdsOn.custody _ (custody_of_free hfree))
    obtain ⟨_, -, hkept, hw'⟩ :=
      ((attempt o w).keeper.custody_shutdown hcustody).returned hshut hq
    refine ⟨hkept, fun k c hk hc => (hw'.reaped_or_kept k c hk hc).resolve_right (fun h => ?_)⟩
    rw [hkept] at h
    cases h
  · -- nobody is in charge when the shutdown begins, so it does nothing
    intro baseUrl w₂ hready
    rw [run_bind_of_returned hreg] at hready
    have hfree₀ : w₀.kept = none := hleaves.kept.trans hfree
    have hleft : LeavesChildren w₀ w₁ := (leaves_work_of_found render hfree₀ hready).of_run hwork
    rw [Keeper.run_shutdown_of_free _ (hleft.kept.trans hfree₀)] at hshut
    cases hshut
    exact hleft.dealings.trans hleaves.dealings

/-- The program in two worlds. In the one it starts a server and is terminated while
it watches it: the shutdown stops the child, and nothing is left behind. In the other
one a server answers already, and the program has nothing to do with it. -/
theorem main_leaves_no_child_behind_of_termination_and_of_found :
    let o : Options := ⟨some "http://127.0.0.1:4567", none, true, false⟩
    let w : World Rat := { withRuntime with
      scripts := [{ ChildScript.plain with onTerm := .exits 0 0 }]
      probes := [503, 503, 200].map fun code => ⟨none, .status code⟩
      interruptions := [(1, .terminate)] }
    let v : World Rat := { withRuntime with probes := [⟨none, .status 200⟩] }
    (w.kept = none ∧ ∃ w', (main Markup.shownText o).run w = some (.raised (.exit 143), w') ∧
      w'.dealings = [.spawn runtimeCommand "/app" none (some 0), .call 0 100 .poll,
        .call 0 100 .poll, .call 0 100 (.signal Machine.terminate), .call 0 100 .poll] ∧
      w'.kept = none ∧ ∃ c, w'.child? 0 = some c ∧ c.status.isSome = true) ∧
    v.kept = none ∧ ∃ v', (main Markup.shownText o).run v = some (.returned (), v') ∧
      v'.dealings = v.dealings := by
  intro o w v
  refine ⟨⟨rfl, ?_⟩, rfl, ?_⟩
  · have hends : ((main Markup.shownText o).run w).map
        (fun r => (r.1, r.2.dealings, (r.2.child? 0).isSome))
        = some (.raised (.exit 143), [.spawn runtimeCommand "/app" none (some 0),
          .call 0 100 .poll, .call 0 100 .poll, .call 0 100 (.signal Machine.terminate),
          .call 0 100 .poll], true) := by
      simp only [main, workUntilInterrupted, work, address, attend, watch, Attempt.makeReady,
        Attempt.discoverAndStart, Attempt.start, Attempt.adopt, HealthCheck.await, Keeper.shutdown,
        Keeper.stop, Keeper.awaitExit, loop_eq_unrolled 1]
      decide +kernel
    have hworks : ((do
          register
          workUntilInterrupted Markup.shownText (attempt o w) o : Act Rat Unit).run w).map
        (fun r => (r.2.lastInterruption, r.2.pauses)) = some (1, 1) := by
      simp only [workUntilInterrupted, work, address, attend, watch, Attempt.makeReady,
        Attempt.discoverAndStart, Attempt.start, Attempt.adopt, HealthCheck.await,
        loop_eq_unrolled 1]
      decide +kernel
    obtain ⟨⟨ending, w'⟩, hrun, hends⟩ := Option.map_eq_some_iff.mp hends
    rw [Prod.mk.injEq, Prod.mk.injEq] at hends
    obtain ⟨rfl, hdealings, hchild⟩ := hends
    obtain ⟨ending₁, w₁, _, hwork, -, hleft, -⟩ :=
      main_leaves_no_child_behind Markup.shownText o rfl hrun
    rw [hwork, Option.map_some, Option.some.injEq, Prod.mk.injEq] at hworks
    obtain ⟨hlast, hpauses⟩ := hworks
    -- the only interruption has come before the shutdown begins
    have hquiet : Quiet w₁ w' :=
      quiet_of_lastInterruption_le (hlast.trans hpauses.symm).le
    obtain ⟨hkept, hstatus⟩ := hleft hquiet
    obtain ⟨c, hc⟩ := Option.isSome_iff_exists.mp hchild
    exact ⟨w', hrun, hdealings, hkept, c, hc, hstatus 0 c (Nat.zero_le 0) hc⟩
  · have hends : ((main Markup.shownText o).run v).map Prod.fst = some (.returned ()) := by
      decide +kernel
    obtain ⟨⟨ending, v'⟩, hrun, rfl⟩ := Option.map_eq_some_iff.mp hends
    obtain ⟨_, _, _, -, -, -, hfound⟩ := main_leaves_no_child_behind Markup.shownText o rfl hrun
    have hready : ((do register; (attempt o v).makeReady o.resources).run v).map Prod.fst
        = some (.returned ⟨"http://127.0.0.1:4567", false⟩) := by decide +kernel
    obtain ⟨⟨_, v₂⟩, hready, rfl⟩ := Option.map_eq_some_iff.mp hready
    exact ⟨v', hrun, hfound _ v₂ hready⟩

end LocalServer.CommandLine
