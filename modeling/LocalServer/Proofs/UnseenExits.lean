import LocalServer.Proofs.Shutdown

/-!
# Exits that no look shows

Whoever waits for a child looks at it, pauses, and looks again, as long as the time is
not up. When these looks are made is settled before the wait begins: they are a pause
apart from each other, and the last of them comes before the deadline
(`Keeper.lastLook`). As a rule it does not come right before it. A child that exits
between the two has exited in time, but no look shows it (`Child.ExitsUnseen`); the wait
ends with the last pause, at the deadline or later, and nobody looks again.

So a wait that ends in vain does not say that the child was still running when the time
was up. It says so of all children but those (`Keeper.awaitExit_iff_seen`), and those a
shutdown kills, and tells that it does, although they have exited in time.
-/

namespace LocalServer

open Act World

/-! ## Exits -/

namespace Child

variable {c : Child Rat} {now start timeout interval : Rat}

/-- **A child exits before a deadline**, or it has exited already. -/
def ExitsBefore (c : Child Rat) (deadline : Rat) : Prop :=
  c.status.isSome = true ∨ ∃ time code, c.death = some (time, code) ∧ time < deadline

/-- A look shows that a child has exited from that time on. -/
theorem hasExited_iff : c.hasExited now = true ↔
    c.status.isSome = true ∨ ∃ time code, c.death = some (time, code) ∧ time ≤ now := by
  unfold hasExited reap
  cases hstatus : c.status with
  | some code => simp [hstatus]
  | none =>
    cases hdeath : c.death with
    | none => simp [hstatus]
    | some death =>
      obtain ⟨time, code⟩ := death
      by_cases hlt : now < time
      · simp [hlt, hstatus]
      · simp [hlt, not_lt.mp hlt]

/-- What one look shows, every later one does. -/
theorem hasExited_mono {later : Rat} (h : c.hasExited now = true) (hle : now ≤ later) :
    c.hasExited later = true := by
  rw [hasExited_iff] at h ⊢
  refine h.imp_right ?_
  rintro ⟨time, code, hdeath, htime⟩
  exact ⟨time, code, hdeath, htime.trans hle⟩

end Child

namespace Keeper

variable {start timeout interval : Rat} {n : Nat}

/-! ## The last look -/

/-- **The last look before the deadline**, in a wait that begins at a time. -/
def lastLook (start timeout interval : Rat) : Rat :=
  moment start interval (⌈timeout / interval⌉₊ - 1)

theorem moment_eq (start interval : Rat) (n : Nat) :
    moment start interval n = start + n * interval := by
  induction n with
  | zero => simp [moment]
  | succ n ih =>
    show moment start interval n + interval = _
    rw [ih]
    push_cast
    ring

/-- **The looks before the deadline** are the first ones, as many as there are pauses
that begin in time. -/
theorem moment_lt_iff (hi : 0 < interval) :
    moment start interval n - start < timeout ↔ n < ⌈timeout / interval⌉₊ := by
  rw [Nat.lt_ceil, lt_div_iff₀ hi, moment_eq, add_sub_cancel_left]

theorem moment_le_moment (hi : 0 < interval) {m : Nat} (h : m ≤ n) :
    moment start interval m ≤ moment start interval n := by
  rw [moment_eq, moment_eq]
  have : (m : Rat) * interval ≤ n * interval :=
    mul_le_mul_of_nonneg_right (Nat.cast_le.mpr h) hi.le
  linarith

/-- **The last look comes before the deadline**, and no further one would: a pause after
it the deadline has come. -/
theorem lastLook_lt (ht : 0 < timeout) (hi : 0 < interval) :
    lastLook start timeout interval < start + timeout ∧
      start + timeout ≤ lastLook start timeout interval + interval := by
  have hpos : 0 < ⌈timeout / interval⌉₊ := Nat.ceil_pos.mpr (div_pos ht hi)
  constructor
  · have hlt : lastLook start timeout interval - start < timeout :=
      (moment_lt_iff hi).mpr (Nat.sub_lt hpos Nat.one_pos)
    linarith
  · have hceil : timeout ≤ ⌈timeout / interval⌉₊ * interval :=
      (div_le_iff₀ hi).mp (Nat.le_ceil _)
    have hlast : ((⌈timeout / interval⌉₊ - 1 : ℕ) : Rat) = ⌈timeout / interval⌉₊ - 1 :=
      Nat.cast_pred hpos
    rw [lastLook, moment_eq, hlast]
    linarith

end Keeper

namespace Child

variable {c : Child Rat} {start timeout interval : Rat}

/-- **A child exits unseen** in a wait: it exits before the deadline, but after the last
look. -/
def ExitsUnseen (c : Child Rat) (start timeout interval : Rat) : Prop :=
  c.status = none ∧ ∃ time code, c.death = some (time, code) ∧
    Keeper.lastLook start timeout interval < time ∧ time < start + timeout

/-- **The last look shows** all exits before the deadline but those. -/
theorem hasExited_lastLook_iff (ht : 0 < timeout) (hi : 0 < interval) :
    c.hasExited (Keeper.lastLook start timeout interval) = true ↔
      c.ExitsBefore (start + timeout) ∧ ¬ c.ExitsUnseen start timeout interval := by
  have hlast : Keeper.lastLook start timeout interval < start + timeout :=
    (Keeper.lastLook_lt ht hi).1
  rw [hasExited_iff]
  constructor
  · rintro (hstatus | ⟨time, code, hdeath, hle⟩)
    · refine ⟨Or.inl hstatus, fun hunseen => ?_⟩
      rw [hunseen.1] at hstatus
      cases hstatus
    · refine ⟨Or.inr ⟨time, code, hdeath, hle.trans_lt hlast⟩, ?_⟩
      rintro ⟨-, time', code', hdeath', hlater, -⟩
      cases hdeath.symm.trans hdeath'
      exact absurd hle (not_le.mpr hlater)
  · rintro ⟨hstatus | ⟨time, code, hdeath, hlt⟩, hseen⟩
    · exact Or.inl hstatus
    · by_cases hstatus : c.status = none
      · refine Or.inr ⟨time, code, hdeath, not_lt.mp fun hlater => ?_⟩
        exact hseen ⟨hstatus, time, code, hdeath, hlater, hlt⟩
      · exact Or.inl (Option.isSome_iff_ne_none.mpr hstatus)

end Child

namespace Keeper

/-! ## What a wait says -/

variable {w w' : World Rat} {k : ChildId} {c : Child Rat} {timeout interval : Rat}

/-- **A wait says what its last look shows**, whichever of its looks is the one that
shows it. -/
theorem AwaitEnds.eq_hasExited {exited : Bool} (ht : 0 < timeout) (hi : 0 < interval)
    (h : AwaitEnds k c timeout interval w exited w') :
    exited = c.hasExited (lastLook w.clock timeout interval) := by
  rw [AwaitEnds.eq_def] at h
  cases exited with
  | true =>
    obtain ⟨n, -, -, hlt, hseen, -⟩ := h
    have hn : n ≤ ⌈timeout / interval⌉₊ - 1 := Nat.le_pred_of_lt ((moment_lt_iff hi).mp hlt)
    exact (Child.hasExited_mono hseen (moment_le_moment hi hn)).symm
  | false =>
    obtain ⟨n, hw, hlate⟩ := h
    have hn : ⌈timeout / interval⌉₊ ≤ n := not_lt.mp fun hn => hlate ((moment_lt_iff hi).mpr hn)
    have hpos : 0 < ⌈timeout / interval⌉₊ := Nat.ceil_pos.mpr (div_pos ht hi)
    -- the last look was made in a round after which the wait went on
    exact (hw.goesOn _ ((Nat.sub_lt hpos Nat.one_pos).trans_le hn)).2.symm

end Keeper

/-! ## Kills -/

/-- Whether an event is a kill, or a notice about one. -/
def Event.isOfKill {τ : Type} : Event τ → Bool
  | .call _ _ .kill | .notice (.notStopped _ _) | .notice (.killed _) => true
  | _ => false

variable {τ : Type}

namespace World

/-- **The kills** so far and what was told of them, in the order of time. -/
def kills (w : World τ) : List (Event τ) :=
  w.events.filter Event.isOfKill

theorem kills_record (w : World τ) (e : Event τ) :
    (w.record e).kills = w.kills ++ if e.isOfKill = true then [e] else [] := by
  rw [kills, events_record, List.filter_append, List.filter_cons, List.filter_nil]
  rfl

/-- **Nothing is killed** between two worlds, and no kill is told of. -/
def KillsNothing (w w' : World τ) : Prop :=
  w'.kills = w.kills

instance : IsPreorder (World τ) KillsNothing where
  refl _ := rfl
  trans _ _ _ h h' := h'.trans h

theorem KillsNothing.record {e : Event τ} (he : e.isOfKill = false) (w : World τ) :
    KillsNothing w (w.record e) := by
  rw [KillsNothing, kills_record, he, if_neg Bool.false_ne_true, List.append_nil]

end World

theorem Act.killsNothing_note {n : Notice τ} (h : (Event.notice n).isOfKill = false) :
    (note n).Keeps KillsNothing :=
  Keeps.change (KillsNothing.record h)

namespace Keeper

variable [Seconds τ]

theorem killsNothing_askToStop (platform : Platform) (k : ChildId) :
    (askToStop platform k : Act τ Unit).Keeps KillsNothing := by
  have hask : (Machine.ask k : Act τ Unit).Keeps KillsNothing :=
    Machine.keeps_ask (fun w _ _ => KillsNothing.record rfl w) (fun _ _ _ => rfl) k
  refine (Keeps.look _).bind (fun pid => ?_)
  split
  · refine (hask.bind fun _ => killsNothing_note rfl).rescue (fun e y he => ?_)
    split at he
    · rw [← Option.some.inj he]
      exact killsNothing_note rfl
    · cases he
  · exact killsNothing_note rfl

/-- **To wait for a child** is to look at it and to pause. -/
theorem killsNothing_awaitExit (k : ChildId) (timeout interval : τ) :
    (awaitExit k timeout interval).Keeps KillsNothing :=
  (Keeps.look _).bind fun start => Keeps.loop (keeps_awaitRound
    (Machine.keeps_poll (fun w _ _ => KillsNothing.record rfl w) (fun _ _ _ => rfl) k)
    (Machine.keeps_sleep_of fun w _ _ => KillsNothing.record rfl w) timeout start)

/-- **What is seen of a kill** when the time of a child to stop is up. -/
def killing (k : ChildId) (pid : Int) (timeout : τ) : List (Event τ) :=
  [.notice (.notStopped pid timeout), .call k pid .kill, .notice (.killed pid)]

omit [Seconds τ] in
theorem kills_afterKill (w : World τ) (k : ChildId) (pid : Int) (c : Child τ) (now : τ) :
    (afterKill w k pid c now).kills = w.kills ++ [.call k pid .kill] := by
  show ((w.record (.call k pid .kill)).record (.call k pid .wait)).kills = _
  rw [kills_record, kills_record]
  exact List.append_nil _

theorem pid_requested (platform : Platform) (c : Child τ) (now : τ) :
    (requested platform c now).pid = c.pid := by
  unfold requested Child.asked
  split
  · split
    · split
      · split <;> rfl
      · rfl
    · rfl
  · rfl

variable {w : World Rat} {k : ChildId} {c : Child Rat}

/-- **What is killed when a child is stopped**, if no pause is interrupted: the child,
unless the last look shows that it has exited. -/
theorem kills_stop (keeper : Keeper Rat) (ht : 0 < keeper.shutdownTimeout)
    (hi : 0 < keeper.pollInterval) (hc : w.child? k = some c) :
    (keeper.stop k).Undisturbed w (fun _ w' => w'.kills = w.kills ++
      if (requested keeper.platform c w.clock).hasExited
          (lastLook w.clock keeper.shutdownTimeout keeper.pollInterval) = true then []
      else killing k c.pid keeper.shutdownTimeout) := by
  refine .of_returned_bind (run_look _ w) (refl_of Passes w) ?_
  refine .of_returned_bind (run_note _ w) (.of_eq rfl rfl) ?_
  obtain ⟨w₁, hrun, hnoted⟩ := run_askToStop keeper.platform
    (show (w.record (.notice (.stopping (w.pid k)))).child? k = some c from hc)
  refine .of_returned_bind hrun hnoted.passes ?_
  have hreq : Requested keeper.platform k c w w₁ := hnoted.of_note
  have hc₁ : w₁.child? k = some _ := child?_of_children_eq_set hc hreq.children
  have hasked : KillsNothing w w₁ :=
    trans_of KillsNothing (KillsNothing.record rfl w) ((killsNothing_askToStop _ k).of_run hrun)
  refine ((undisturbed_awaitExit _ _ hc₁).and_keeps (killsNothing_awaitExit k _ _)).bind
    (fun exited => ?_) (fun exited w₂ h₂ => ?_)
  · split
    · exact passes_note _
    · exact (passes_note _).bind fun _ => (passes_killAndWait k).bind fun _ => passes_note _
  · obtain ⟨hends, hwaited⟩ := h₂
    have hkills : w₂.kills = w.kills := hwaited.trans hasked
    have hexited := hends.eq_hasExited ht hi
    rw [hreq.clock] at hexited
    rw [← hexited]
    cases exited with
    | true =>
      refine .of_returned (run_note _ w₂) (.of_eq rfl rfl) ?_
      rw [if_pos rfl, List.append_nil, ← hkills]
      exact KillsNothing.record rfl w₂
    | false =>
      obtain ⟨n, hw, -⟩ := hends
      refine .of_returned_bind (run_note _ w₂) (.of_eq rfl rfl) ?_
      obtain ⟨c', now, -, hkill⟩ := run_killAndWait
        (show (w₂.record (.notice _)).child? k = some _ from hw.child? hc₁)
      refine .of_returned_bind hkill (.of_eq rfl rfl) ?_
      refine .of_returned (run_note _ _) (.of_eq rfl rfl) ?_
      rw [kills_record, kills_afterKill, kills_record, hkills, pid_requested,
        pid_of_child? hc]
      simp [killing, Event.isOfKill]

/-- **What is killed by a shutdown** that is not interrupted: the child in charge,
unless a look shows that it has exited, be it the first one or the last. -/
theorem kills_shutdown (keeper : Keeper Rat) (ht : 0 < keeper.shutdownTimeout)
    (hi : 0 < keeper.pollInterval) (hk : w.kept = some k) (hc : w.child? k = some c) :
    keeper.shutdown.Undisturbed w (fun _ w' => w'.kills = w.kills ++
      if c.hasExited w.clock = true ∨ (requested keeper.platform c w.clock).hasExited
          (lastLook w.clock keeper.shutdownTimeout keeper.pollInterval) = true then []
      else killing k c.pid keeper.shutdownTimeout) := by
  have hlook : KillsNothing w (looked w k) :=
    KillsNothing.record rfl ({ w with kept := none } : World Rat)
  cases hstatus : (c.reap w.clock).status with
  | some code =>
    have hx : c.hasExited w.clock = true := by rw [Child.hasExited, hstatus, Option.isSome_some]
    refine .of_returned (run_shutdown_of_exited keeper hk hc hstatus) (.of_eq rfl rfl) ?_
    rw [if_pos (Or.inl hx), List.append_nil, ← hlook]
    exact KillsNothing.record rfl _
  | none =>
    have hx : c.hasExited w.clock = false := Child.hasExited_eq_false_iff.mpr hstatus
    have hlooked : (looked w k).child? k = some c := hc
    refine .of_run_eq (run_shutdown_of_running keeper hk hc hx) (.of_eq rfl rfl)
      ((kills_stop keeper ht hi hlooked).mono fun _ w' h => ?_)
    rw [h, hlook, hx]
    simp only [Bool.false_eq_true, false_or]
    rfl

/-! ## A wait and a shutdown -/

variable {timeout interval : Rat}

/-- **The wait for a child ends** and says what its last look shows. -/
theorem exists_run_awaitExit (ht : 0 < timeout) (hi : 0 < interval) (hc : w.child? k = some c) :
    ∃ ending w', (awaitExit k timeout interval).run w = some (ending, w') ∧ (Quiet w w' →
      ending = .returned (c.hasExited (lastLook w.clock timeout interval))) := by
  obtain ⟨ending, w', hrun⟩ := (ends_awaitExit k timeout hi : Act.Ends _ w).exists_run
  refine ⟨ending, w', hrun, fun hq => ?_⟩
  obtain ⟨exited, rfl, hends⟩ := (undisturbed_awaitExit timeout interval hc).returned hrun hq
  rw [hends.eq_hasExited ht hi]

/-- **A shutdown ends** and kills what no look shows to have exited. -/
theorem exists_run_shutdown (keeper : Keeper Rat) (ht : 0 < keeper.shutdownTimeout)
    (hi : 0 < keeper.pollInterval) (hk : w.kept = some k) (hc : w.child? k = some c) :
    ∃ ending w', keeper.shutdown.run w = some (ending, w') ∧ (Quiet w w' →
      ending = .returned () ∧ w'.kills = w.kills ++
        if c.hasExited w.clock = true ∨ (requested keeper.platform c w.clock).hasExited
            (lastLook w.clock keeper.shutdownTimeout keeper.pollInterval) = true then []
        else killing k c.pid keeper.shutdownTimeout) := by
  obtain ⟨ending, w', hrun⟩ := (ends_shutdown hi : keeper.shutdown.Ends w).exists_run
  refine ⟨ending, w', hrun, fun hq => ?_⟩
  obtain ⟨⟨⟩, rfl, hkills⟩ := (kills_shutdown keeper ht hi hk hc).returned hrun hq
  exact ⟨rfl, hkills⟩

/-- A child that exits by itself at a time, and goes on when it is asked to stop. -/
def doomed (time : Rat) : Child Rat :=
  ⟨100, .ignores, false, some (time, 0), none⟩

/-- A world in which the keeper is in charge of it. -/
def withDoomed (time : Rat) : World Rat :=
  { World.still 0 (FileTree.empty []) ⟨[], none⟩ with
    children := [some (doomed time)]
    kept := some 0 }

/-- In a wait of a second with pauses of three quarters of a second there is one look
after the first. -/
theorem lastLook_of_second : lastLook 0 1 (3 / 4) = 3 / 4 := by
  have hceil : ⌈(1 : Rat) / (3 / 4)⌉₊ = 2 := by
    rw [Nat.ceil_eq_iff two_ne_zero]
    norm_num
  rw [lastLook, hceil, moment_eq]
  norm_num

/-- **A shutdown spares a child** that has exited when it begins, or that exits before
the deadline once it was asked to stop, but not unseen. -/
def IsSpared (keeper : Keeper Rat) (c : Child Rat) (start : Rat) : Prop :=
  c.hasExited start = true ∨
    (requested keeper.platform c start).ExitsBefore (start + keeper.shutdownTimeout) ∧
      ¬ (requested keeper.platform c start).ExitsUnseen start keeper.shutdownTimeout
        keeper.pollInterval

/-- **A wait says that a child has exited exactly if it exits before the deadline and not
unseen.** It ends, and if it was not interrupted, then it says so. A shutdown with the
same times ends as well, and if it was not interrupted, then it spares the children that
it has to spare by that, and kills all others: those that go on, and those that exit
unseen. -/
theorem awaitExit_iff_seen (ht : 0 < timeout) (hi : 0 < interval) (hc : w.child? k = some c) :
    (∃ ending w', (awaitExit k timeout interval).run w = some (ending, w') ∧ (Quiet w w' →
      ∃ exited, ending = .returned exited ∧ (exited = true ↔
        c.ExitsBefore (w.clock + timeout) ∧ ¬ c.ExitsUnseen w.clock timeout interval))) ∧
    ∀ platform, w.kept = some k →
      let keeper : Keeper Rat := ⟨platform, timeout, interval⟩
      ∃ ending w', keeper.shutdown.run w = some (ending, w') ∧ (Quiet w w' →
        ending = .returned () ∧
        (keeper.IsSpared c w.clock → w'.kills = w.kills) ∧
        (¬ keeper.IsSpared c w.clock → w'.kills = w.kills ++ killing k c.pid timeout)) := by
  constructor
  · obtain ⟨ending, w', hrun, h⟩ := exists_run_awaitExit ht hi hc
    exact ⟨ending, w', hrun, fun hq => ⟨_, h hq, Child.hasExited_lastLook_iff ht hi⟩⟩
  · intro platform hk keeper
    obtain ⟨ending, w', hrun, h⟩ := exists_run_shutdown keeper ht hi hk hc
    have hspared : keeper.IsSpared c w.clock ↔ c.hasExited w.clock = true ∨
        (requested platform c w.clock).hasExited (lastLook w.clock timeout interval) = true :=
      or_congr_right (Child.hasExited_lastLook_iff ht hi).symm
    refine ⟨ending, w', hrun, fun hq => ⟨(h hq).1, fun hs => ?_, fun hs => ?_⟩⟩
    · rw [(h hq).2, if_pos (hspared.mp hs), List.append_nil]
    · rw [(h hq).2, if_neg fun hx => hs (hspared.mpr hx)]

/-- A child that exits in the first pause is seen to have exited, and is spared. -/
theorem awaitExit_iff_seen_of_early :
    let w := withDoomed (1 / 2)
    let keeper : Keeper Rat := ⟨.linux, 1, 3 / 4⟩
    0 < keeper.shutdownTimeout ∧ 0 < keeper.pollInterval ∧ w.child? 0 = some (doomed (1 / 2)) ∧
      w.kept = some 0 ∧
      (∃ w', (awaitExit 0 1 (3 / 4)).run w = some (.returned true, w')) ∧
      ∃ w', keeper.shutdown.run w = some (.returned (), w') ∧ w'.kills = [] := by
  intro w keeper
  have ht : 0 < keeper.shutdownTimeout := by decide +kernel
  have hi : 0 < keeper.pollInterval := by decide +kernel
  obtain ⟨⟨ending, w₁, hrun, h⟩, hshutdown⟩ :=
    awaitExit_iff_seen ht hi (rfl : w.child? 0 = some (doomed (1 / 2)))
  obtain ⟨ending₂, w₂, hrun₂, h₂⟩ := hshutdown .linux rfl
  -- nobody interrupts in this world
  obtain ⟨exited, rfl, hexited⟩ := h (fun _ _ _ => rfl)
  obtain ⟨rfl, hspared, -⟩ := h₂ (fun _ _ _ => rfl)
  have hbefore : (doomed (1 / 2)).ExitsBefore (0 + 1) := Or.inr ⟨1 / 2, 0, rfl, by norm_num⟩
  have hseen : ¬ (doomed (1 / 2)).ExitsUnseen 0 1 (3 / 4) := by
    rintro ⟨-, time, code, hdeath, hlater, -⟩
    cases hdeath
    rw [lastLook_of_second] at hlater
    norm_num at hlater
  rw [hexited.mpr ⟨hbefore, hseen⟩] at hrun
  exact ⟨ht, hi, rfl, rfl, ⟨w₁, hrun⟩, w₂, hrun₂, hspared (Or.inr ⟨hbefore, hseen⟩)⟩

/-- **An exit before the deadline is not always seen**: a child that exits in the last
pause is waited for in vain, and a shutdown kills it. -/
theorem not_forall_exit_seen :
    ¬ (∀ (w : World Rat) (k : ChildId) (c : Child Rat) (timeout interval : Rat), 0 < timeout →
      0 < interval → w.child? k = some c →
      ∃ ending w', (awaitExit k timeout interval).run w = some (ending, w') ∧ (Quiet w w' →
        (ending = .returned true ↔ c.ExitsBefore (w.clock + timeout)))) ∧
    ¬ (∀ (w : World Rat) (k : ChildId) (c : Child Rat) (keeper : Keeper Rat),
      0 < keeper.shutdownTimeout → 0 < keeper.pollInterval → w.kept = some k →
      w.child? k = some c →
      (requested keeper.platform c w.clock).ExitsBefore (w.clock + keeper.shutdownTimeout) →
      ∃ ending w', keeper.shutdown.run w = some (ending, w') ∧ (Quiet w w' →
        w'.kills = w.kills)) := by
  have ht : (0 : Rat) < 1 := by norm_num
  have hi : (0 : Rat) < 3 / 4 := by norm_num
  have hbefore : (doomed (7 / 8)).ExitsBefore (0 + 1) := Or.inr ⟨7 / 8, 0, rfl, by norm_num⟩
  have hlook : ∀ now ≤ (3 / 4 : Rat), (doomed (7 / 8)).hasExited now = false := by
    intro now hnow
    rw [Bool.eq_false_iff, ne_eq, Child.hasExited_iff]
    rintro (hstatus | ⟨time, code, hdeath, hle⟩)
    · cases hstatus
    · cases hdeath
      have := hle.trans hnow
      norm_num at this
  have hlast : (doomed (7 / 8)).hasExited (lastLook 0 1 (3 / 4)) = false :=
    hlook _ lastLook_of_second.le
  constructor
  · intro h
    obtain ⟨ending, w', hrun, hreports⟩ := h (withDoomed (7 / 8)) 0 _ 1 (3 / 4) ht hi rfl
    obtain ⟨ending₁, w₁, hrun₁, hlooks⟩ :=
      exists_run_awaitExit ht hi (rfl : (withDoomed (7 / 8)).child? 0 = some (doomed (7 / 8)))
    cases hrun.symm.trans hrun₁
    have hreturned := (hreports fun _ _ _ => rfl).mpr hbefore
    rw [hlooks fun _ _ _ => rfl] at hreturned
    cases hlast.symm.trans (Ending.returned.inj hreturned)
  · intro h
    let keeper : Keeper Rat := ⟨.linux, 1, 3 / 4⟩
    obtain ⟨ending, w', hrun, hspared⟩ :=
      h (withDoomed (7 / 8)) 0 (doomed (7 / 8)) keeper ht hi rfl rfl hbefore
    obtain ⟨ending₁, w₁, hrun₁, hkills⟩ := exists_run_shutdown keeper ht hi
      (rfl : (withDoomed (7 / 8)).kept = some 0) (rfl : _ = some (doomed (7 / 8)))
    cases hrun.symm.trans hrun₁
    have hnone := hspared fun _ _ _ => rfl
    rw [(hkills fun _ _ _ => rfl).2, if_neg] at hnone
    · cases hnone
    · rintro (hx | hx)
      · cases (hlook 0 hi.le).symm.trans hx
      · cases hlast.symm.trans hx

end Keeper

end LocalServer
