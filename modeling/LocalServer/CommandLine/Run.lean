import LocalServer.Attempt
import LocalServer.CommandLine.Usage
import LocalServer.Markup.Shown

/-!
# The program

The program makes sure that a server answers, opens its address in the
browser, and, if it has started the server itself, watches it until it
exits or the user interrupts. In any case, whatever else happens, it shuts
down what it has started.

When no server can be had the program goes on in degraded mode: it opens
the address at which a server ought to be.

Its lines for the user are marked-up text. How they are shown is up to a
**renderer**, which may also refuse a line; the program is the same with
any of them, and runs with the one of this library.
-/

namespace LocalServer.CommandLine

open Act

variable {τ : Type} [Seconds τ]

/-- The time between two looks at a server that is being watched. -/
def watchInterval : τ := 0.5

/-- The code with which the program exits on the signal to terminate. -/
def terminatedCode : Int := 128 + Machine.terminate

/-- **A renderer** of marked-up text: what is shown of a line, or the fault
that it raises. -/
abbrev Renderer (τ : Type) := String → Except (Fault τ) String

/-- **A line for the user**, in marked-up text. -/
def print (render : Renderer τ) (markup : String) : Act τ Unit := do
  match render markup with
  | .ok text => record (.print text)
  | .error e => raise e

/-- **Opening an address in the browser.** -/
def browse (url : String) : Act τ Unit := do
  record (.openBrowser url)
  match ← look World.browser with
  | .opens => pure ()
  | .absent => note (.noBrowser url)
  | .fails reason => note (.browserFailed reason)

/-- Telling that a server answers. -/
def announce (render : Renderer τ) (ready : Ready) : Act τ String := do
  print render ("[green]Suwayomi server ready: " ++ ready.baseUrl ++ "[/green]")
  pure ready.baseUrl

/-- Going on without a server. -/
def degrade (render : Renderer τ) (a : Attempt τ) (e : LaunchError τ) : Act τ String := do
  note (.bootstrapFailed e)
  let baseUrl ← a.baseUrl
  print render ("[yellow]Continuing in degraded mode with " ++ baseUrl ++ "[/yellow]")
  pure baseUrl

/-- **The address to open**: that of a server that answers, or else the one
at which it ought to be. -/
def address (render : Renderer τ) (a : Attempt τ) (resources : Option Path) : Act τ String :=
  (do announce render (← a.makeReady resources)).rescue fun
    | .launch e => some (degrade render a e)
    | _ => none

/-- **Watching the server** until it exits. A server that does not exit is
watched until the user interrupts. -/
def watch : Act τ Unit :=
  loop do
    if ← Keeper.isAlive then
      Machine.sleep watchInterval
      pure none
    else pure (some ())

/-- Watching the server in charge, if there is one. -/
def attend (render : Renderer τ) : Act τ Unit := do
  if (← look World.kept).isSome then
    print render "[dim]Press Ctrl+C to stop the server.[/dim]"
    watch
    print render "[yellow]Server process exited.[/yellow]"

/-- The work of the program, up to the shutdown. -/
def work (render : Renderer τ) (a : Attempt τ) (o : Options) : Act τ Unit := do
  let baseUrl ← address render a o.resources
  if o.openBrowser then browse baseUrl
  attend render

/-- The work of the program, where an interruption from the keyboard is
the wish to stop. -/
def workUntilInterrupted (render : Renderer τ) (a : Attempt τ) (o : Options) : Act τ Unit :=
  (work render a o).rescue fun
    | .interrupted => some (print render "[dim]Stopping Suwayomi server...[/dim]")
    | _ => none

/-- The attempt that the program makes. -/
def attempt (o : Options) (w : World τ) : Attempt τ :=
  .usual (.ofSystem w.system) o.url

/-- Asking to be called when the program ends and when it is terminated. -/
def register : Act τ Unit := do
  record .atExit
  record (.onSignal Machine.terminate)
  change fun w => { w with onTerminate := some (.exit terminatedCode) }

/-- **The program**, with its renderer and its options. -/
def main (render : Renderer τ) (o : Options) : Act τ Unit := do
  let a ← look (attempt o)
  register
  (workUntilInterrupted render a o).ensuring a.keeper.shutdown

/-! ## What is seen of it -/

/-- **What is seen of a run of the program.** -/
structure Report (τ : Type) where
  /-- The code with which it exits. -/
  exitCode : Int
  /-- The text that it prints instead of doing any work. -/
  output : String
  /-- The least importance of the notices that are told, if the program
  came so far as to say so. -/
  level : Option Level
  /-- The fault that has ended it. -/
  fault : Option (Fault τ)
  /-- What was seen. -/
  events : List (Event τ)
  /-- What was seen of the calls that were asked for when it ended. -/
  closing : List (Event τ)

/-- A run that only prints a text. -/
def Report.ofText (exitCode : Int) (output : String) : Report τ :=
  ⟨exitCode, output, none, none, [], []⟩

/-- Whether an event is told at a level. -/
def isTold (level : Level) : Event τ → Bool
  | .notice n => level.rank ≤ n.level.rank
  | _ => true

/-- **How the program exits**, given how its work has ended: the code, the
text that is printed, and the fault that is reported. -/
def exitOf : Ending τ Unit → Int × String × Option (Fault τ)
  | .returned () => (0, "", none)
  | .raised (.exit code) => (code, "", none)
  | .raised .interrupted => (1, abortedText, none)
  | .raised e => (1, "", some e)

/-- The run of the program with its renderer and its options, if it ends. -/
def runWith (render : Renderer τ) (o : Options) (w : World τ) : Option (Report τ) := do
  let level := if o.verbose then Level.debug else .info
  let (ending, after) ← (main render o).run { w with journal := [] }
  let (_, closed) ← (attempt o w).keeper.shutdown.run { after with journal := [] }
  let (exitCode, output, fault) := exitOf ending
  pure ⟨exitCode, output, some level, fault,
    after.events.filter (isTold level), closed.events.filter (isTold level)⟩

/-- **The run of the program** on a command line, if it ends. -/
def run (words : List String) (w : World τ) : Option (Report τ) :=
  match request w.files words with
  | .help => some (.ofText 0 helpText)
  | .version => some (.ofText 0 versionText)
  | .invalid e => some (.ofText 2 e.text)
  | .mutePath => some { Report.ofText 1 "" with fault := some .mutePath }
  | .start o => runWith Markup.shownText o w

end LocalServer.CommandLine
