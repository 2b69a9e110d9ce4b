import LocalServer.Proofs.HealthGate

/-!
# From the search to the start

A server is started from one root: the process runs in it, and its interpreter
and its server are the files that were looked up under it. The root is the first
of those to search that holds both (`Discovery.FirstToHold`), for the search goes
through them in order, and goes on only from a root at which one of the two was
looked for in vain. Nothing but the search says what is started
(`Attempt.makeReady_starts_first_to_hold`).

There is always something to search, so the one reason not to know where to
begin is an executable without a directory: an empty path, or a root.
-/

namespace LocalServer

variable {τ : Type}

/-! ## Roots of the file tree -/

namespace Path

/-- A path that is seen from a root starts at a root. -/
theorem isAbsolute_join {base : Path} (h : base.isAbsolute = true) (p : Path) :
    (base.join p).isAbsolute = true := by
  unfold join
  split
  · assumption
  · exact h

/-- There are two roots, the one that is written with one slash and the one that
is written with two. -/
theorem names_eq_nil_iff_isRoot {p : Path} (h : p.isAbsolute = true) :
    p.names = [] ↔ p = ofString "/" ∨ p = ofString "//" := by
  have hone : ofString "/" = ⟨.root, []⟩ := by decide +kernel
  have htwo : ofString "//" = ⟨.doubleRoot, []⟩ := by decide +kernel
  obtain ⟨start, names⟩ := p
  rw [hone, htwo]
  cases start with
  | here => cases h
  | root => simp
  | doubleRoot => simp

end Path

namespace Discovery

/-! ## Where the search begins -/

/-- A list keeps the first of its paths when it loses those that come again. -/
theorem dedup_ne_nil {ps : List Path} (h : ps ≠ []) : dedup ps ≠ [] := by
  cases ps with
  | nil => exact absurd rfl h
  | cons p ps => exact List.cons_ne_nil p _

/-- **There is always something to search**, with the directory of the
application at least. -/
theorem roots_ne_nil (resources : Option Path) (app : Path) (platform : Platform) :
    roots resources app platform ≠ [] :=
  dedup_ne_nil (by simp [candidates])

/-- **An executable without a directory**: its path is empty, or it is a root, as
seen from the working directory. -/
def NoDirectory (files : FileTree) (executable : String) : Prop :=
  executable = "" ∨ files.workingPath.join (.ofString executable) = .ofString "/" ∨
    files.workingPath.join (.ofString executable) = .ofString "//"

/-- Those are the executables for which no application is found. -/
theorem appDirectory_eq_error_iff {executable : String} {platform : Platform} {files : FileTree}
    {e : Fault τ} :
    appDirectory executable platform files = .error e ↔
      e = .launch .unknownExecutable ∧ NoDirectory files executable := by
  have habsolute : (files.workingPath.join (.ofString executable)).isAbsolute = true :=
    Path.isAbsolute_join rfl _
  rw [NoDirectory, ← Path.names_eq_nil_iff_isRoot habsolute]
  unfold appDirectory
  dsimp only
  split
  · next hroot =>
    rw [Except.error.injEq, and_iff_left hroot]
    exact eq_comm
  · next hroot => exact iff_of_false (by rintro ⟨⟩) fun h => hroot h.2

/-! ## The search -/

/-- **A root holds an installation**: its interpreter and its server are there. -/
def Holds (platform : Platform) (files : FileTree) (root : Path) : Prop :=
  files.exists? (interpreter root platform) = some true ∧
    files.exists? (payload root) = some true

/-- **A root lacks an installation**: its interpreter was looked for in vain, or
it was there and the server was looked for in vain. -/
def Lacks (platform : Platform) (files : FileTree) (root : Path) : Prop :=
  files.exists? (interpreter root platform) = some false ∨
    files.exists? (interpreter root platform) = some true ∧
      files.exists? (payload root) = some false

/-- **The first root that holds an installation**, of those in a list: all that
stand before it lack one. -/
structure FirstToHold (platform : Platform) (files : FileTree) (rs : List Path) (root : Path) :
    Prop where
  /-- It holds one. -/
  holds : Holds platform files root
  /-- It is the first. -/
  first : ∃ before after, rs = before ++ root :: after ∧ ∀ r ∈ before, Lacks platform files r

variable {platform : Platform} {files : FileTree} {root : Path} {rest : List Path}

theorem FirstToHold.mem {rs : List Path} (h : FirstToHold platform files rs root) : root ∈ rs := by
  obtain ⟨before, after, rfl, -⟩ := h.first
  exact List.mem_append_right _ List.mem_cons_self

/-- The first root in a list is the first that holds an installation if it holds
one. If it lacks one, the others are to be looked through. -/
theorem firstToHold_cons_iff {r : Path} :
    FirstToHold platform files (r :: rest) root ↔
      Holds platform files r ∧ root = r ∨
        Lacks platform files r ∧ FirstToHold platform files rest root := by
  constructor
  · rintro ⟨hholds, before, after, hsplit, hlacks⟩
    cases before with
    | nil =>
      cases hsplit
      exact Or.inl ⟨hholds, rfl⟩
    | cons _ before =>
      cases hsplit
      exact Or.inr ⟨hlacks r List.mem_cons_self, hholds, before, after, rfl,
        fun r' hr' => hlacks r' (List.mem_cons_of_mem r hr')⟩
  · rintro (⟨hholds, rfl⟩ | ⟨hlacks, hholds, before, after, rfl, hbefore⟩)
    · exact ⟨hholds, [], rest, rfl, fun _ h => absurd h List.not_mem_nil⟩
    · refine ⟨hholds, r :: before, after, rfl, fun r' hr' => ?_⟩
      rcases List.mem_cons.mp hr' with rfl | hr'
      · exact hlacks
      · exact hbefore r' hr'

/-- **A step of the search**: what becomes of it at its first root. -/
theorem outcome_search_cons (missing : Missing) :
    (search platform files missing (root :: rest) : Finding τ _).outcome =
      match files.exists? (interpreter root platform), files.exists? (payload root) with
      | none, _ | some true, none => .error .nameTooLong
      | some true, some true => .ok (installation root platform)
      | some true, some false => (search platform files
          { missing with payload := missing.payload.or (some (payload root)) } rest).outcome
      | some false, _ => (search platform files
          { missing with
            interpreter := missing.interpreter.or (some (interpreter root platform)) }
          rest).outcome := by
  rw [search, lookUp, lookUp]
  rcases files.exists? (interpreter root platform) with _ | _ | _
  · rfl
  · rfl
  · rcases files.exists? (payload root) with _ | _ | _
    · rfl
    · rfl
    · rfl

/-- **What the search finds** is the first root that holds an installation. -/
theorem outcome_search_eq_ok_iff {missing : Missing} {rs : List Path} {found : Installation} :
    (search platform files missing rs : Finding τ _).outcome = .ok found ↔
      ∃ root, FirstToHold platform files rs root ∧ found = installation root platform := by
  induction rs generalizing missing with
  | nil =>
    refine iff_of_false (by rintro ⟨⟩) ?_
    rintro ⟨root, hfirst, -⟩
    cases hfirst.mem
  | cons root rest ih =>
    simp only [outcome_search_cons, firstToHold_cons_iff]
    cases hinterpreter : files.exists? (interpreter root platform) with
    | none => simp [Holds, Lacks, hinterpreter]
    | some there =>
      cases there with
      | false => simp [Holds, Lacks, hinterpreter, ih]
      | true =>
        cases hpayload : files.exists? (payload root) with
        | none => simp [Holds, Lacks, hinterpreter, hpayload]
        | some there =>
          cases there with
          | false => simp [Holds, Lacks, hinterpreter, hpayload, ih]
          | true => simp [Holds, Lacks, hinterpreter, hpayload, eq_comm]

/-- **A search has nowhere to look** only if there is nothing to search, and
nothing was missing before. -/
theorem of_outcome_search_nowhere {missing : Missing} {rs : List Path} {message : String}
    (h : (search platform files missing rs : Finding τ _).outcome
      = .error (.launch (.nowhereToSearch message))) :
    rs = [] ∧ missing = ⟨none, none⟩ := by
  induction rs generalizing missing with
  | nil =>
    refine ⟨rfl, ?_⟩
    obtain ⟨_ | path, _ | path'⟩ := missing
    · rfl
    all_goals cases h
  | cons root rest ih =>
    -- at a root that was passed over something is missing
    rw [outcome_search_cons] at h
    split at h
    · cases h
    · cases h
    · cases h
    · obtain ⟨-, hmissing⟩ := ih h
      simp at hmissing
    · obtain ⟨-, hmissing⟩ := ih h
      simp at hmissing

/-! ## The launch plan -/

variable {baseUrl executable : String} {resources : Option Path} {env : Environment}

/-- Where the executable has no directory, nothing is looked for. -/
theorem outcome_plan_of_error {e : Fault τ}
    (h : appDirectory executable platform files = .error e) :
    (plan baseUrl resources executable env platform files : Finding τ _).outcome = .error e := by
  have happ : (Finding.ofExcept (appDirectory executable platform files)).outcome = .error e := h
  rw [plan, Finding.bind_of_error happ]

/-- Where it has one, the launch plan is made of what the search finds. -/
theorem outcome_plan_of_ok {app : Path}
    (h : appDirectory executable platform files = (.ok app : Except (Fault τ) Path)) :
    (plan baseUrl resources executable env platform files : Finding τ _).outcome =
      (find (roots resources app platform) platform files).outcome.map fun found =>
        ⟨found.root, found.interpreter, found.payload, baseUrl, env.get? dataRootVariable⟩ := by
  have happ : (Finding.ofExcept (appDirectory executable platform files) : Finding τ _).outcome
      = .ok app := h
  rw [plan, Finding.bind_of_ok happ, Finding.bind_of_ok (Finding.outcome_tell _)]
  cases hfound : (find (roots resources app platform) platform files : Finding τ _).outcome with
  | ok found =>
    rw [Finding.bind_of_ok hfound]
    rfl
  | error e =>
    rw [Finding.bind_of_error hfound]
    rfl

/-- **A launch plan** is made of the first root that holds an installation, and
of the variable for the data of the server. -/
theorem outcome_plan_eq_ok_iff {p : LaunchPlan} :
    (plan baseUrl resources executable env platform files : Finding τ _).outcome = .ok p ↔
      ∃ app root, appDirectory executable platform files = (.ok app : Except (Fault τ) Path) ∧
        FirstToHold platform files (roots resources app platform) root ∧
        p = ⟨root, interpreter root platform, payload root, baseUrl, env.get? dataRootVariable⟩ := by
  cases happ : (appDirectory executable platform files : Except (Fault τ) Path) with
  | error e =>
    rw [outcome_plan_of_error happ]
    exact iff_of_false (by rintro ⟨⟩) (by rintro ⟨_, _, ⟨⟩, -⟩)
  | ok app =>
    rw [outcome_plan_of_ok happ]
    constructor
    · intro h
      cases hfound : (find (roots resources app platform) platform files : Finding τ _).outcome with
      | error e =>
        rw [hfound] at h
        cases h
      | ok found =>
        obtain ⟨root, hfirst, rfl⟩ := outcome_search_eq_ok_iff.mp hfound
        rw [hfound] at h
        cases h
        exact ⟨app, root, rfl, hfirst, rfl⟩
    · rintro ⟨_, root, ⟨⟩, hfirst, rfl⟩
      rw [find, outcome_search_eq_ok_iff.mpr ⟨root, hfirst, rfl⟩]
      rfl

/-- **Looking for the runtime has nowhere to begin** only if the executable has
no directory. -/
theorem outcome_plan_eq_nowhere_iff {message : String} :
    (plan baseUrl resources executable env platform files : Finding τ _).outcome
        = .error (.launch (.nowhereToSearch message)) ↔
      (.nowhereToSearch message : LaunchError τ) = .unknownExecutable ∧
        NoDirectory files executable := by
  rw [← Fault.launch.injEq, ← appDirectory_eq_error_iff ]
  cases happ : (appDirectory executable platform files : Except (Fault τ) Path) with
  | error e =>
    rw [outcome_plan_of_error happ, Except.error.injEq, Except.error.injEq]
  | ok app =>
    rw [outcome_plan_of_ok happ]
    refine iff_of_false (fun h => ?_) (by rintro ⟨⟩)
    cases hfound : (find (roots resources app platform) platform files : Finding τ _).outcome with
    | ok found =>
      rw [hfound] at h
      cases h
    | error e =>
      rw [hfound] at h
      cases h
      exact roots_ne_nil resources app platform (of_outcome_search_nowhere hfound).1

end Discovery

namespace LaunchPlan

/-- **The command line** of a launch plan, written out. -/
theorem command_eq (plan : LaunchPlan) :
    plan.command = plan.interpreter.toText
      :: "-Dsuwayomi.tachidesk.config.server.initialOpenInBrowserEnabled=false"
      :: "-Dsuwayomi.tachidesk.config.server.webUIInterface=browser"
      :: (plan.dataRoot.map ("-Dsuwayomi.tachidesk.config.server.rootDir=" ++ ·)).toList
        ++ ["-jar", plan.payload.toText] := by
  have hbrowser : property "initialOpenInBrowserEnabled" "false"
      = "-Dsuwayomi.tachidesk.config.server.initialOpenInBrowserEnabled=false" := by decide +kernel
  have hinterface : property "webUIInterface" "browser"
      = "-Dsuwayomi.tachidesk.config.server.webUIInterface=browser" := by decide +kernel
  have hdata : property "rootDir" = ("-Dsuwayomi.tachidesk.config.server.rootDir=" ++ ·) := by
    have hname : "-Dsuwayomi.tachidesk.config.server." ++ "rootDir" ++ "="
        = "-Dsuwayomi.tachidesk.config.server.rootDir=" := by decide +kernel
    exact funext fun value => congrArg (· ++ value) hname
  rw [command, properties, hbrowser, hinterface, hdata]
  rfl

end LaunchPlan

/-! ## What is started -/

namespace World

/-- Where a process was to be started, a start was seen. -/
theorem started_ne_nil_of_mem {seen : List (τ × Event τ)} {now : τ} {command : List String}
    {directory : String} {flags : Option Nat} {child : Option ChildId}
    (h : (now, .spawn command directory flags child) ∈ seen) : started seen ≠ [] := fun hnone => by
  cases List.filterMap_eq_nil_iff.mp hnone _ h

end World

/-- A lookup that is made use of raises what it fails with. -/
theorem Act.exists_run_consult_raised_iff {α : Type} {x : Finding τ α} {w : World τ}
    {e : Fault τ} :
    (∃ w', (consult x).run w = some (.raised e, w')) ↔ x.outcome = .error e := by
  simp only [run, consult]
  split
  · next h => simp [h]
  · next h => simp [h]

namespace Attempt

open Act World Discovery

variable [Seconds τ] {a : Attempt τ} {w : World τ} {resources : Option Path}

/-- **What is started is what the search has found.** -/
theorem Course.of_spawn {ending : Ending τ Ready} {phase : Phase} {seen : List (τ × Event τ)}
    (h : Course a w resources ending phase seen) {now : τ} {command : List String}
    {directory : String} {flags : Option Nat} {child : Option ChildId}
    (hmem : (now, .spawn command directory flags child) ∈ seen) :
    ∃ baseUrl plan, (a.search w baseUrl resources).outcome = .ok plan ∧
      command = plan.command ∧ directory = plan.root.toText := by
  cases h with
  | unaddressed => exact absurd (by simp) (started_ne_nil_of_mem hmem)
  | unusable => exact absurd (by simp) (started_ne_nil_of_mem hmem)
  | broken => exact absurd (by simp) (started_ne_nil_of_mem hmem)
  | running => exact absurd (by simp) (started_ne_nil_of_mem hmem)
  | @searched _ baseUrl _ _ _ _ _ _ searching =>
    rcases List.mem_append.mp hmem with hmem | hmem
    · exact absurd (by simp) (started_ne_nil_of_mem hmem)
    · obtain hnever | ⟨plan, second, rest, start, child', answer, hplan, rfl, hsecond, hrest, -⟩ :=
        searching.eq_start
      · exact absurd hnever (started_ne_nil_of_mem hmem)
      · rcases List.mem_append.mp hmem with hmem | hmem
        · exact absurd (by simp [hsecond]) (started_ne_nil_of_mem hmem)
        · rcases List.mem_cons.mp hmem with hstart | hmem
          · cases hstart
            exact ⟨baseUrl, plan, hplan, rfl, rfl⟩
          · exact absurd hrest (started_ne_nil_of_mem hmem)

omit [Seconds τ] in
/-- **Discovery has nowhere to begin** exactly if the executable has no
directory, in whatever world it takes place. -/
theorem discover_raises_nowhere_iff (a : Attempt τ) (baseUrl : String) (resources : Option Path)
    (w : World τ) :
    (∃ message w', (a.discover baseUrl resources).run w
        = some (.raised (.launch (.nowhereToSearch message)), w')) ↔
      NoDirectory w.files (a.executable.getD w.executable) := by
  have hrun : (a.discover baseUrl resources).run w
      = (consult (a.search w baseUrl resources)).run w := run_bind_of_returned (run_look _ w) _
  simp only [hrun, exists_run_consult_raised_iff, search, outcome_plan_eq_nowhere_iff]
  constructor
  · rintro ⟨_, -, h⟩
    exact h
  · exact fun h => ⟨_, rfl, h⟩

/-- **From the executable to the start**: every process that an attempt starts, or
is refused, runs in the first root that holds an installation, of those that
belong to the executable and the resources. Its command line names the
interpreter and the server under that very root, sets the two properties, and
passes on the directory for the data exactly if the variable for it is set.
Discovery has nowhere to begin only for an executable without a directory, and
wherever it begins there is something to search. -/
theorem makeReady_starts_first_to_hold (a : Attempt τ) (resources : Option Path) :
    (∀ (w w' : World τ) (ending : Ending τ Ready),
      (a.makeReady resources).run w = some (ending, w') →
      ∃ seen, w'.timeline = w.timeline ++ seen ∧
        ∀ now command directory flags child,
          (now, .spawn command directory flags child) ∈ seen →
          ∃ app root,
            appDirectory (a.executable.getD w.executable) a.keeper.platform w.files
              = (.ok app : Except (Fault τ) Path) ∧
            FirstToHold a.keeper.platform w.files (roots resources app a.keeper.platform) root ∧
            directory = root.toText ∧
            command = (interpreter root a.keeper.platform).toText
              :: "-Dsuwayomi.tachidesk.config.server.initialOpenInBrowserEnabled=false"
              :: "-Dsuwayomi.tachidesk.config.server.webUIInterface=browser"
              :: ((w.environment.get? "SUWAYOMI_ROOT_DIR").map
                  ("-Dsuwayomi.tachidesk.config.server.rootDir=" ++ ·)).toList
                ++ ["-jar", (payload root).toText]) ∧
      (∀ (w : World τ) (baseUrl : String),
        (∃ message w', (a.discover baseUrl resources).run w
            = some (.raised (.launch (.nowhereToSearch message)), w')) ↔
          NoDirectory w.files (a.executable.getD w.executable)) ∧
      ∀ app, roots resources app a.keeper.platform ≠ [] := by
  refine ⟨fun w w' ending hrun => ?_, fun w baseUrl => a.discover_raises_nowhere_iff _ _ w,
    fun app => roots_ne_nil _ _ _⟩
  obtain ⟨seen, hseen, hcourse⟩ := exists_course_of_run hrun
  refine ⟨seen, hseen, fun now command directory flags child hmem => ?_⟩
  obtain ⟨baseUrl, plan, hplan, rfl, rfl⟩ := hcourse.of_spawn hmem
  obtain ⟨app, root, happ, hfirst, rfl⟩ := outcome_plan_eq_ok_iff.mp hplan
  exact ⟨app, root, happ, hfirst, rfl, LaunchPlan.command_eq _⟩

/-- An attempt with resources that hold nothing, and with the data of the server
elsewhere, starts the server in the directory of the application, which is the first
root to hold one; and an executable that is a root. -/
theorem makeReady_starts_first_to_hold_of_resources :
    let a : Attempt Rat := .usual .linux (some "http://127.0.0.1:4567")
    let w : World Rat := { withRuntime with
      environment := ⟨[("SUWAYOMI_ROOT_DIR", "/data")], none⟩
      scripts := [.plain]
      probes := [503, 503, 200].map fun code => ⟨none, .status code⟩ }
    let command : List String := ["/app/jre/bin/java",
      "-Dsuwayomi.tachidesk.config.server.initialOpenInBrowserEnabled=false",
      "-Dsuwayomi.tachidesk.config.server.webUIInterface=browser",
      "-Dsuwayomi.tachidesk.config.server.rootDir=/data", "-jar", "/app/bin/Suwayomi-Server.jar"]
    (∃ w', (a.makeReady (some (.ofString "/res"))).run w
        = some (.returned ⟨"http://127.0.0.1:4567", true⟩, w') ∧
      w'.dealings = [.spawn command "/app" none (some 0)] ∧
      FirstToHold .linux w.files [.ofString "/res", .ofString "/res/resources",
        .ofString "/app", .ofString "/app/resources"] (.ofString "/app")) ∧
    ∃ message w', (a.discover "http://127.0.0.1:4567" none).run { w with executable := "//" }
      = some (.raised (.launch (.nowhereToSearch message)), w') := by
  intro a w command
  have hseen : ((a.makeReady (some (.ofString "/res"))).run w).map (fun r => (r.1, r.2.dealings))
      = some (.returned ⟨"http://127.0.0.1:4567", true⟩,
        [.spawn command "/app" none (some 0)]) := by
    simp only [makeReady, discoverAndStart, start, adopt, HealthCheck.await, loop_eq_unrolled 1]
    decide +kernel
  obtain ⟨⟨ending, w'⟩, hrun, hseen⟩ := Option.map_eq_some_iff.mp hseen
  obtain ⟨rfl, hdealings⟩ := Prod.mk.inj hseen
  refine ⟨⟨w', hrun, hdealings, ?_⟩, ?_⟩
  · obtain ⟨seen, hseen, hstarts⟩ := (makeReady_starts_first_to_hold a _).1 w w' _ hrun
    have hmem : .spawn command "/app" none (some 0) ∈ w'.dealings :=
      hdealings ▸ List.mem_singleton_self _
    obtain ⟨⟨now, _⟩, hstart, rfl⟩ := List.mem_map.mp (List.mem_filter.mp hmem).1
    rw [hseen, show w.timeline = [] from rfl, List.nil_append] at hstart
    obtain ⟨app, root, happ, hfirst, htext, -⟩ := hstarts now _ _ _ _ hstart
    have happ' : (appDirectory "/app/launcher" .linux w.files : Except (Fault Rat) Path)
        = .ok (.ofString "/app") := by decide +kernel
    cases happ'.symm.trans happ
    have hroots : roots (some (.ofString "/res")) (.ofString "/app") .linux
        = [.ofString "/res", .ofString "/res/resources", .ofString "/app",
          .ofString "/app/resources"] := by decide +kernel
    have hroot : ∀ r ∈ roots (some (.ofString "/res")) (.ofString "/app") .linux,
        "/app" = r.toText → r = .ofString "/app" := by decide +kernel
    cases hroot root hfirst.mem htext
    exact hroots ▸ hfirst
  · exact ((makeReady_starts_first_to_hold a none).2.1 _ _).mpr
      (Or.inr (Or.inr (by decide +kernel)))

end Attempt

end LocalServer
