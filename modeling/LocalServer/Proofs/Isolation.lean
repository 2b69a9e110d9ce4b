import LocalServer.Proofs.Dealings
import Mathlib.Control.Monad.Basic

/-!
# Given variables stand alone

A host may give variables in place of those of the process. Then settings are read from
them and from nothing else, even if there are none of them. Of the process only the home
directory is asked for, and not even that if the variables name the file with the
settings by a path that does not start at the home directory.

That is a statement about two runs. Two environments **read alike**
(`Environment.ReadsAlike`) if no lookup can tell them apart, and an action **overlooks**
that the environment was exchanged for one that reads alike (`Act.Overlooks`) if it then
does the same: it ends in the same way, in a world that differs in the environment only,
or it does not end in either. Actions that overlook this do so one after the other, and
over and over in a loop, so it is enough to know it of each step of an attempt. Only two
of the steps look at the environment at all: the choice of the address, and the search
for the runtime.
-/

namespace LocalServer

open Act

variable {τ : Type} {α β : Type}

/-! ## Environments that read alike -/

/-- Whether a path starts at the home directory. -/
def Path.startsAtHome (p : Path) : Bool :=
  p.start = .here ∧ p.names.head? = some "~"

/-- **Variables that name the file with the settings**, by a path that does not start at
the home directory. -/
def Variables.NamesSettings (vs : Variables) : Prop :=
  let named := Text.trimmed ((vs.lookup ServerSettings.pathVariable).getD "")
  named ≠ "" ∧ (Path.ofString named).startsAtHome = false

instance (vs : Variables) : Decidable vs.NamesSettings :=
  inferInstanceAs (Decidable (_ ∧ _))

namespace Environment

/-- **Two environments that read alike.** -/
structure ReadsAlike (env env' : Environment) : Prop where
  /-- Settings are read from the same variables. -/
  current : env'.current = env.current
  /-- The home directory is the same, or nobody asks for it. -/
  home : env'.process.lookup "HOME" = env.process.lookup "HOME" ∨ env.current.NamesSettings

instance : IsEquiv Environment ReadsAlike where
  refl _ := ⟨rfl, Or.inl rfl⟩
  trans _ _ _ h h' := by
    refine ⟨h'.current.trans h.current, ?_⟩
    rcases h.home with hhome | hnames
    · exact h'.home.imp (fun hhome' => hhome'.trans hhome) (fun hnames => h.current ▸ hnames)
    · exact Or.inr hnames
  symm _ _ h := by
    refine ⟨h.current.symm, ?_⟩
    exact h.home.imp Eq.symm (fun hnames => h.current.symm ▸ hnames)

variable {env env' : Environment}

theorem get?_congr (h : env'.current = env.current) (name : String) :
    env'.get? name = env.get? name := by
  rw [get?, h, get?]

theorem trimmed_congr (h : env'.current = env.current) (name : String) :
    env'.trimmed name = env.trimmed name := by
  rw [trimmed, get?_congr h, trimmed]

theorem home_congr (h : env'.process.lookup "HOME" = env.process.lookup "HOME") :
    (env'.home : Except (Fault τ) Path) = env.home := by
  rw [home, h, home]

/-- The home directory is not asked for to read a path that does not start there. -/
theorem expandHome_of_not_startsAtHome {p : Path} (h : p.startsAtHome = false) :
    (env'.expandHome p : Except (Fault τ) Path) = env.expandHome p := by
  obtain ⟨start, names⟩ := p
  cases start with
  | here =>
    cases names with
    | nil => rfl
    | cons name rest =>
      have hname : name ≠ "~" := by
        rintro rfl
        cases h
      unfold expandHome
      dsimp only
      rw [if_neg hname, if_neg hname]
  | root => rfl
  | doubleRoot => rfl

end Environment

theorem Platform.dataDirectory_congr {env env' : Environment}
    (hcurrent : env'.current = env.current)
    (hhome : env'.process.lookup "HOME" = env.process.lookup "HOME") (p : Platform) :
    (p.dataDirectory env' : Except (Fault τ) Path) = p.dataDirectory env := by
  unfold dataDirectory
  rw [Environment.home_congr hhome, Environment.trimmed_congr hcurrent,
    Environment.trimmed_congr hcurrent]

namespace Environment.ReadsAlike

variable {env env' : Environment}

/-- **The file with the settings** is the same. -/
theorem path (h : ReadsAlike env env') (platform : Platform) :
    (ServerSettings.path env' platform : Except (Fault τ) Path)
      = ServerSettings.path env platform := by
  unfold ServerSettings.path
  rw [trimmed_congr h.current]
  rcases h.home with hhome | ⟨hnamed, hstart⟩
  · unfold ServerSettings.usualPath expandHome
    rw [Platform.dataDirectory_congr h.current hhome, home_congr hhome]
  · -- the path is that of the variable, and it does not start at the home directory
    replace hnamed : env.trimmed ServerSettings.pathVariable ≠ "" := hnamed
    dsimp only
    rw [if_pos hnamed, if_pos hnamed]
    exact expandHome_of_not_startsAtHome hstart

/-- **The settings** are the same, and what is told of them. -/
theorem ofFiles (h : ReadsAlike env env') (platform : Platform) (files : FileTree) :
    (ServerSettings.ofFiles env' platform files : Finding τ _)
      = ServerSettings.ofFiles env platform files := by
  rw [ServerSettings.ofFiles, h.path, ServerSettings.ofFiles]

/-- **The choice of the address** is the same. -/
theorem choose (h : ReadsAlike env env') (commandLine : Option String) (platform : Platform)
    (files : FileTree) : (Address.choose commandLine env' platform files : Finding τ String)
      = Address.choose commandLine env platform files := by
  unfold Address.choose Address.fromSettings
  rw [get?_congr h.current, h.ofFiles]

/-- **The launch plan** is the same. -/
theorem plan (h : ReadsAlike env env') (baseUrl : String) (resources : Option Path)
    (executable : String) (platform : Platform) (files : FileTree) :
    (Discovery.plan baseUrl resources executable env' platform files : Finding τ LaunchPlan)
      = Discovery.plan baseUrl resources executable env platform files := by
  unfold Discovery.plan
  rw [get?_congr h.current]

end Environment.ReadsAlike

/-! ## Actions that overlook an exchange of the environment -/

namespace World

/-- The world with another environment. -/
def inEnvironment (w : World τ) (env : Environment) : World τ :=
  { w with environment := env }

@[simp] theorem environment_inEnvironment (w : World τ) (env : Environment) :
    (w.inEnvironment env).environment = env := rfl

@[simp] theorem inEnvironment_inEnvironment (w : World τ) (env env' : Environment) :
    (w.inEnvironment env).inEnvironment env' = w.inEnvironment env' := rfl

@[simp] theorem inEnvironment_self (w : World τ) : w.inEnvironment w.environment = w := rfl

theorem told_inEnvironment (w : World τ) (env : Environment) (notices : List (Notice τ)) :
    (w.inEnvironment env).told notices = (w.told notices).inEnvironment env := by
  rw [told_eq, told_eq]
  rfl

end World

open World

namespace Act

/-- **An action overlooks** that the environment was exchanged for one that is like it: it
does the same, and the exchanged environment is still there at the end. -/
def Overlooks (A : Environment → Environment → Prop) (x : Act τ α) : Prop :=
  ∀ w env, A w.environment env →
    x.run (w.inEnvironment env) = (x.run w).map fun r => (r.1, r.2.inEnvironment env)

namespace Overlooks

variable {A : Environment → Environment → Prop} {x : Act τ α}

theorem pure (a : α) : (Pure.pure a : Act τ α).Overlooks A :=
  fun _ _ _ => rfl

theorem raise (e : Fault τ) : (Act.raise e : Act τ α).Overlooks A :=
  fun _ _ _ => rfl

theorem look {f : World τ → α}
    (hf : ∀ w env, A w.environment env → f (w.inEnvironment env) = f w) :
    (Act.look f).Overlooks A := by
  intro w env hA
  rw [run_look, hf w env hA]
  rfl

theorem change {f : World τ → World τ}
    (hf : ∀ w env, f (w.inEnvironment env) = (f w).inEnvironment env) :
    (Act.change f).Overlooks A := by
  intro w env _
  rw [run_change, hf w env]
  rfl

theorem note (n : Notice τ) : (Act.note n).Overlooks A :=
  change fun _ _ => rfl

theorem consult (f : Finding τ α) : (Act.consult f).Overlooks A := by
  intro w env _
  unfold run Act.consult
  rw [told_inEnvironment]
  cases f.outcome with
  | ok a => rfl
  | error e => rfl

variable [IsEquiv Environment A]

/-- The environment at the end is the one at the start. -/
theorem environment_of_run (hx : x.Overlooks A) {w w' : World τ} {ending : Ending τ α}
    (h : x.run w = some (ending, w')) : w'.environment = w.environment := by
  have hself := hx w w.environment (refl_of A _)
  rw [inEnvironment_self, h] at hself
  have hw' : w' = w'.inEnvironment w.environment := congrArg Prod.snd (Option.some.inj hself)
  rw [hw', environment_inEnvironment]

/-- **One action after the other.** -/
theorem bind {f : α → Act τ β} (hx : x.Overlooks A) (hf : ∀ a, (f a).Overlooks A) :
    (x >>= f).Overlooks A := by
  intro w env hA
  have hrun := hx w env hA
  rcases h : x.run w with _ | ⟨a | e, w'⟩
  · rw [h] at hrun
    rw [run_bind_of_none hrun, run_bind_of_none h]
    rfl
  · rw [h] at hrun
    rw [run_bind_of_returned hrun, run_bind_of_returned h]
    exact hf a w' env (hx.environment_of_run h ▸ hA)
  · rw [h] at hrun
    rw [run_bind_of_raised hrun, run_bind_of_raised h]
    rfl

/-- **A rescue**, if every way on overlooks the exchange as well. -/
theorem rescue {handler : Fault τ → Option (Act τ α)} (hx : x.Overlooks A)
    (hy : ∀ e y, handler e = some y → y.Overlooks A) : (x.rescue handler).Overlooks A := by
  intro w env hA
  have hrun := hx w env hA
  rcases h : x.run w with _ | ⟨a | e, w'⟩
  · rw [h] at hrun
    simp only [run] at h hrun
    simp only [run, Act.rescue, h, hrun, Option.map_none]
  · rw [h] at hrun
    rw [run_rescue_of_returned hrun, run_rescue_of_returned h]
    rfl
  · rw [h] at hrun
    cases he : handler e with
    | some y =>
      rw [run_rescue_of_raised hrun he, run_rescue_of_raised h he]
      exact hy e y he w' env (hx.environment_of_run h ▸ hA)
    | none =>
      rw [run_rescue_of_raised_of_none hrun he, run_rescue_of_raised_of_none h he]
      rfl

/-- **A clean-up after a fault.** -/
theorem onFault {kind : Fault τ → Bool} {cleanUp : Act τ Unit} (hx : x.Overlooks A)
    (hc : cleanUp.Overlooks A) : (x.onFault kind cleanUp).Overlooks A := by
  refine hx.rescue (fun e y he => ?_)
  split at he
  · rw [← Option.some.inj he]
    exact hc.bind fun _ => raise e
  · cases he

/-- A loop that ends does so in the other environment, and in the same way. -/
theorem run_loop_of_run {body : Act τ (Option α)} (hx : body.Overlooks A) {w : World τ}
    {r : Ending τ α × World τ} (h : (Act.loop body).run w = some r) {env : Environment}
    (hA : A w.environment env) :
    (Act.loop body).run (w.inEnvironment env) = some (r.1, r.2.inEnvironment env) := by
  refine loopIn.partial_correctness body
    (fun w r => A w.environment env →
      (Act.loop body).run (w.inEnvironment env) = some (r.1, r.2.inEnvironment env))
    ?_ w r h hA
  -- one more round before the rounds of which it is known already
  intro rounds ih w r hstep hA
  obtain ⟨⟨outcome, w₁⟩, hbody, hrest⟩ := Option.bind_eq_some_iff.mp hstep
  have hrun := hx w env hA
  rw [show body.run w = some (outcome, w₁) from hbody] at hrun
  rw [run_loop]
  cases outcome with
  | raised e =>
    cases Option.some.inj hrest
    rw [run_bind_of_raised hrun]
  | returned o =>
    rw [run_bind_of_returned hrun]
    cases o with
    | none => exact ih w₁ r hrest (hx.environment_of_run hbody ▸ hA)
    | some a =>
      cases Option.some.inj hrest
      rfl

/-- **A loop.** That it does not end in one environment is seen from the other. -/
theorem loop {body : Act τ (Option α)} (hx : body.Overlooks A) :
    (Act.loop body).Overlooks A := by
  intro w env hA
  cases h : (Act.loop body).run w with
  | some r => exact hx.run_loop_of_run h hA
  | none =>
    cases h' : (Act.loop body).run (w.inEnvironment env) with
    | none => rfl
    | some r =>
      have hback := hx.run_loop_of_run h' (symm_of A hA)
      rw [inEnvironment_inEnvironment, inEnvironment_self, h] at hback
      cases hback

end Overlooks

end Act

/-! ## The steps of an attempt -/

section Steps

variable [Seconds τ] {A : Environment → Environment → Prop}

namespace Machine

theorem overlooks_sleep (pause : τ) : (sleep pause).Overlooks A := by
  intro w env _
  unfold run sleep
  dsimp only [inEnvironment, World.record]
  cases w.interruptions.lookup (w.pauses + 1) with
  | none => rfl
  | some interruption =>
    cases interruption with
    | fault e => rfl
    | terminate =>
      dsimp only [raisedBy]
      cases w.onTerminate with
      | none => rfl
      | some e => rfl

theorem overlooks_probe (url : String) (timeout : τ) : (probe url timeout).Overlooks A :=
  fun _ _ _ => rfl

theorem overlooks_spawn (command : List String) (directory : String) (flags : Option Nat) :
    (spawn command directory flags : Act τ ChildId).Overlooks A := by
  intro w env _
  unfold run spawn
  dsimp only [inEnvironment, World.record]
  cases ((w.scripts[w.children.length]?).getD ChildScript.plain).refusal with
  | none => rfl
  | some e => rfl

variable [IsEquiv Environment A]

theorem overlooks_kill (k : ChildId) : (kill k : Act τ Unit).Overlooks A := by
  refine (Overlooks.change fun _ _ => rfl).bind (fun _ w env _ => ?_)
  have hchild : (w.inEnvironment env).child? k = w.child? k := rfl
  simp only [run, hchild]
  cases w.child? k with
  | none => rfl
  | some c =>
    cases hgone : c.goneOnKill with
    | false => simp only [hgone]; rfl
    | true => simp only [hgone]; rfl

theorem overlooks_wait (k : ChildId) : (wait k : Act τ Unit).Overlooks A := by
  refine (Overlooks.change fun _ _ => rfl).bind (fun _ w env _ => ?_)
  have hchild : (w.inEnvironment env).child? k = w.child? k := rfl
  simp only [run, hchild]
  cases w.child? k with
  | none => rfl
  | some c => rfl

end Machine

variable [IsEquiv Environment A]

namespace HealthCheck

theorem overlooks_check (baseUrl : String) (timeout : τ) :
    (check baseUrl timeout).Overlooks A := by
  refine (Machine.overlooks_probe _ _).bind (fun answer => ?_)
  cases answer with
  | status code =>
    dsimp only
    split
    · exact Overlooks.pure true
    · exact (Overlooks.note _).bind fun _ => Overlooks.pure false
  | failed reason => exact (Overlooks.note _).bind fun _ => Overlooks.pure false
  | broken e => exact Overlooks.raise e

theorem overlooks_awaitRound (baseUrl : String) (timeout interval start : τ) :
    (awaitRound baseUrl timeout interval start).Overlooks A := by
  refine (Overlooks.look fun _ _ _ => rfl).bind (fun now => ?_)
  split
  · refine (overlooks_check baseUrl interval).bind (fun healthy => ?_)
    split
    · exact (Overlooks.note _).bind fun _ => Overlooks.pure _
    · exact (Machine.overlooks_sleep interval).bind fun _ => Overlooks.pure _
  · exact Overlooks.pure _

theorem overlooks_await (baseUrl : String) (timeout interval : τ) :
    (await baseUrl timeout interval).Overlooks A := by
  rw [await_eq]
  exact (Overlooks.look fun _ _ _ => rfl).bind fun start =>
    (overlooks_awaitRound baseUrl timeout interval start).loop

end HealthCheck

namespace Keeper

theorem overlooks_launch (keeper : Keeper τ) (plan : LaunchPlan) :
    (keeper.launch plan).Overlooks A := by
  refine (Overlooks.note _).bind (fun _ => ?_)
  refine ((Machine.overlooks_spawn _ _ _).rescue fun e y he => ?_).bind (fun k => ?_)
  · rw [← Option.some.inj he]
    exact Overlooks.raise _
  · exact (Overlooks.look fun _ _ _ => rfl).bind fun _ =>
      (Overlooks.note _).bind fun _ => Overlooks.pure k

omit [Seconds τ] in
theorem overlooks_takeCharge (k : ChildId) : (takeCharge k : Act τ Unit).Overlooks A := by
  refine (Overlooks.look fun _ _ _ => rfl).bind (fun pid => ?_)
  refine (Overlooks.look fun _ _ _ => rfl).bind (fun kept => ?_)
  cases kept with
  | some j => exact Overlooks.raise _
  | none => exact (Overlooks.change fun _ _ => rfl).bind fun _ => Overlooks.note _

theorem overlooks_giveUp (k : ChildId) : (giveUp k : Act τ Unit).Overlooks A := by
  refine (Overlooks.look fun _ _ _ => rfl).bind (fun pid => (Overlooks.note _).bind fun _ => ?_)
  refine ((Machine.overlooks_kill k).rescue fun e y he => ?_).bind fun _ =>
    Machine.overlooks_wait k
  split at he
  · rw [← Option.some.inj he]
    exact Overlooks.pure ()
  · cases he

end Keeper

namespace Attempt

omit [Seconds τ] in
theorem overlooks_enter (phase : Phase) : (enter phase : Act τ Unit).Overlooks A :=
  (Overlooks.look fun _ _ _ => rfl).bind fun _ =>
    (Overlooks.note _).bind fun _ => Overlooks.change fun _ _ => rfl

theorem overlooks_adopt (a : Attempt τ) (baseUrl : String) (k : ChildId) :
    (a.adopt baseUrl k).Overlooks A := by
  refine (HealthCheck.overlooks_await _ _ _).bind (fun healthy => ?_)
  split
  · exact Keeper.overlooks_takeCharge k
  · exact Overlooks.raise _

theorem overlooks_start (a : Attempt τ) (plan : LaunchPlan) : (a.start plan).Overlooks A := by
  refine (overlooks_enter _).bind (fun _ => ?_)
  refine ((a.keeper.overlooks_launch plan).onFault (overlooks_enter _)).bind (fun k => ?_)
  refine (overlooks_enter _).bind (fun _ => ?_)
  refine ((a.overlooks_adopt _ k).onFault ?_).bind (fun _ => ?_)
  · exact (Keeper.overlooks_giveUp k).bind fun _ => overlooks_enter _
  · exact (overlooks_enter _).bind fun _ => Overlooks.pure _

end Attempt

end Steps

namespace Attempt

variable [Seconds τ]

open Environment (ReadsAlike)

omit [Seconds τ] in
/-- **The base address** is chosen the same where environments read alike. -/
theorem overlooks_baseUrl (a : Attempt τ) : a.baseUrl.Overlooks ReadsAlike :=
  (Overlooks.look fun _ _ h => h.choose _ _ _).bind fun x => Overlooks.consult x

omit [Seconds τ] in
/-- **The search for the runtime** is the same where environments read alike. -/
theorem overlooks_discover (a : Attempt τ) (baseUrl : String) (resources : Option Path) :
    (a.discover baseUrl resources).Overlooks ReadsAlike :=
  (Overlooks.look fun _ _ h => h.plan _ _ _ _ _).bind fun x => Overlooks.consult x

theorem overlooks_discoverAndStart (a : Attempt τ) (baseUrl : String)
    (resources : Option Path) : (a.discoverAndStart baseUrl resources).Overlooks ReadsAlike := by
  refine (overlooks_enter _).bind (fun _ => ?_)
  refine ((a.overlooks_discover _ _).onFault (overlooks_enter _)).bind (fun plan => ?_)
  refine (HealthCheck.overlooks_check _ _).bind (fun healthy => ?_)
  split
  · exact (Overlooks.note _).bind fun _ => (overlooks_enter _).bind fun _ => Overlooks.pure _
  · exact a.overlooks_start plan

/-- **A bootstrap attempt** is the same where environments read alike. -/
theorem overlooks_makeReady (a : Attempt τ) (resources : Option Path) :
    (a.makeReady resources).Overlooks ReadsAlike := by
  refine (Overlooks.change fun _ _ => rfl).bind (fun _ => ?_)
  refine a.overlooks_baseUrl.bind (fun baseUrl => ?_)
  split
  · refine (HealthCheck.overlooks_check _ _).bind (fun healthy => ?_)
    split
    · exact (Overlooks.note _).bind fun _ => (overlooks_enter _).bind fun _ => Overlooks.pure _
    · exact a.overlooks_discoverAndStart baseUrl resources
  · exact (overlooks_enter _).bind fun _ => Overlooks.raise _

end Attempt

/-! ## What a host gives -/

/-- In a file tree with nothing in it no path from the root leads to a file. -/
theorem FileTree.read_of_nothing {name : String} {rest : List String}
    (h : isMute (Path.mk .root (name :: rest)).toText = false ∧
      (Path.mk .root (name :: rest)).toText.utf8ByteSize ≤ longestPath ∧
      isStay name = false ∧ name ≠ ".." ∧ name.utf8ByteSize ≤ longestName) :
    (⟨[], []⟩ : FileTree).read ⟨.root, name :: rest⟩ = .error .missing := by
  obtain ⟨hmute, hpath, hstay, hback, hname⟩ := h
  have harrival : (⟨[], []⟩ : FileTree).arrival ⟨.root, name :: rest⟩
      = if rest = [] then .vacant [name] else .blocked .missing := by
    rw [arrival, hmute, if_neg Bool.false_ne_true, if_neg (Nat.not_lt.mpr hpath)]
    simp [follow, walk, linkLimit, base, node?, Path.isAbsolute, hstay, hback,
      Nat.not_lt.mpr hname]
  rw [read, harrival]
  cases rest with
  | nil => rfl
  | cons next rest => rfl

/-- Where there is no file with the settings, nothing is set. -/
theorem ServerSettings.ofFiles_of_missing {env : Environment} {platform : Platform}
    {files : FileTree} {path : Path}
    (hpath : ServerSettings.path env platform = (.ok path : Except (Fault τ) Path))
    (hread : files.read path = .error .missing) :
    (ofFiles env platform files : Finding τ _) = ⟨[.settingsUnreadable path], .ok none⟩ := by
  unfold ofFiles
  rw [hpath, Finding.bind_of_ok (x := .ofExcept _) rfl, hread]
  rfl

namespace Environment

/-- **Given variables stand alone.** If a host gives variables, none at all perhaps, then
it makes no difference which variables the process has, provided that the home directory
is the same, or that the given variables name the file with the settings by a path that
does not start there. The settings, the address that is chosen and the launch plan are
the same, with everything that is told on the way. So are a run that asks for the
address and a bootstrap attempt, from any world: it ends in the same way, after the same
events at the same times, or does not end; and of the world only the environment is
another one. -/
theorem isolated_of_given [Seconds τ] (given process process' : Variables)
    (h : process'.lookup "HOME" = process.lookup "HOME" ∨ given.NamesSettings) :
    let env : Environment := ⟨process, some given⟩
    let env' : Environment := ⟨process', some given⟩
    (∀ platform files, (ServerSettings.ofFiles env' platform files : Finding τ _)
      = ServerSettings.ofFiles env platform files) ∧
    (∀ commandLine platform files,
      (Address.choose commandLine env' platform files : Finding τ String)
        = Address.choose commandLine env platform files) ∧
    (∀ baseUrl resources executable platform files,
      (Discovery.plan baseUrl resources executable env' platform files : Finding τ LaunchPlan)
        = Discovery.plan baseUrl resources executable env platform files) ∧
    (∀ (a : Attempt τ) (w : World τ), a.baseUrl.run (w.inEnvironment env')
      = (a.baseUrl.run (w.inEnvironment env)).map fun r => (r.1, r.2.inEnvironment env')) ∧
    ∀ (a : Attempt τ) (resources : Option Path) (w : World τ),
      (a.makeReady resources).run (w.inEnvironment env')
        = ((a.makeReady resources).run (w.inEnvironment env)).map fun r =>
          (r.1, r.2.inEnvironment env') := by
  intro env env'
  have halike : ReadsAlike env env' := ⟨rfl, h⟩
  exact ⟨halike.ofFiles, halike.choose, halike.plan,
    fun a w => a.overlooks_baseUrl (w.inEnvironment env) env' halike,
    fun a resources w => a.overlooks_makeReady resources (w.inEnvironment env) env' halike⟩

/-- A host that gives no variables does not see an address among those of the process, and
one that names a file of settings by an absolute path does not see that there is no home
directory. -/
theorem isolated_of_given_of_none_and_of_absolute :
    let files : FileTree := ⟨[], []⟩
    let homely : Variables := [("HOME", "/")]
    let leaky : Variables := [("SUWAYOMI_BASE_URL", "http://example.org:80"), ("HOME", "/")]
    let named : Variables := [("SUWAYOMI_CONFIG_PATH", "/etc/server.conf")]
    (leaky.lookup "HOME" = homely.lookup "HOME" ∧
      (Address.choose none ⟨leaky, some []⟩ .linux files : Finding Rat String)
        = Address.choose none ⟨homely, some []⟩ .linux files ∧
      (Address.choose none ⟨leaky, some []⟩ .linux files : Finding Rat String).outcome
        = .ok "http://127.0.0.1:4567") ∧
    (named.NamesSettings ∧
      ∀ a : Attempt Rat, (a.makeReady none).run (.still 0 files ⟨[], some named⟩)
        = ((a.makeReady none).run (.still 0 files ⟨homely, some named⟩)).map fun r =>
          (r.1, r.2.inEnvironment ⟨[], some named⟩)) := by
  intro files homely leaky named
  have hhome : leaky.lookup "HOME" = homely.lookup "HOME" := by decide
  have hnames : named.NamesSettings := by decide +kernel
  have hleaky := isolated_of_given (τ := Rat) [] homely leaky (Or.inl hhome)
  have hnamed := isolated_of_given (τ := Rat) named homely [] (Or.inr hnames)
  have hpath : (ServerSettings.path ⟨leaky, some []⟩ .linux : Except (Fault Rat) Path)
      = .ok ⟨.root, [".local", "share", "Tachidesk", "server.conf"]⟩ := by
    decide +kernel
  have hread : files.read ⟨.root, [".local", "share", "Tachidesk", "server.conf"]⟩
      = .error .missing :=
    FileTree.read_of_nothing (by decide +kernel)
  have hdefault : (Address.choose none ⟨leaky, some []⟩ .linux files :
      Finding Rat String).outcome = .ok "http://127.0.0.1:4567" := by
    rw [Address.choose, Address.fromSettings, ServerSettings.ofFiles_of_missing hpath hread]
    decide +kernel
  exact ⟨⟨hhome, hleaky.2.1 none .linux files, hdefault⟩, hnames,
    fun a => hnamed.2.2.2.2 a none (.still 0 files ⟨[], some named⟩)⟩

/-- **A home directory that is hidden in a path counts**, although the path does not start
with `~` as it is written. -/
theorem not_isolated_of_hidden_home :
    ¬ ∀ (given process process' : Variables) (commandLine : Option String)
      (platform : Platform) (files : FileTree),
      let named := Text.trimmed ((given.lookup ServerSettings.pathVariable).getD "")
      named ≠ "" → named.toList.head? ≠ some '~' →
      (Address.choose commandLine ⟨process', some given⟩ platform files : Finding Rat String)
        = Address.choose commandLine ⟨process, some given⟩ platform files := by
  intro h
  have hsame := h [("SUWAYOMI_CONFIG_PATH", "./~/server.conf")] [("HOME", "/home/tester")]
    [("HOME", "~")] none .linux ⟨[], []⟩ (by decide +kernel) (by decide +kernel)
  have hpath : (ServerSettings.path ⟨[("HOME", "/home/tester")],
      some [("SUWAYOMI_CONFIG_PATH", "./~/server.conf")]⟩ .linux : Except (Fault Rat) Path)
      = .ok ⟨.root, ["home", "tester", "server.conf"]⟩ := by
    decide +kernel
  have hread : (⟨[], []⟩ : FileTree).read ⟨.root, ["home", "tester", "server.conf"]⟩
      = .error .missing :=
    FileTree.read_of_nothing (by decide +kernel)
  -- the one home is where the settings are looked for, and the other is none
  have houtcome := congrArg Finding.outcome hsame
  rw [Address.choose, Address.choose, Address.fromSettings, Address.fromSettings,
    ServerSettings.ofFiles_of_missing hpath hread] at houtcome
  revert houtcome
  decide +kernel

end Environment

end LocalServer
