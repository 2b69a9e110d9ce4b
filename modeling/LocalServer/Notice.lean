import LocalServer.Fault
import LocalServer.Path
import LocalServer.Phase
import LocalServer.Text.Quoted

/-!
# Notices

A **notice** is something worth telling about a run: what was decided, what
was seen, what is about to be done. Notices are kept as what they are
about; `Notice.text` is the line that is shown for one, and `Notice.level`
says who wants to see it.
-/

namespace LocalServer

/-- **How important a notice is.** -/
inductive Level where
  | debug
  | info
  | warning
  | error
deriving DecidableEq, Repr

namespace Level

/-- The name of a level. -/
def name : Level → String
  | .debug => "DEBUG"
  | .info => "INFO"
  | .warning => "WARNING"
  | .error => "ERROR"

/-- The place of a level in the order of importance. -/
def rank : Level → Nat
  | .debug => 0
  | .info => 1
  | .warning => 2
  | .error => 3

end Level

/-- **Where a user says which address to use.** -/
inductive AddressSource where
  /-- The command line. -/
  | commandLine
  /-- A variable of the environment. -/
  | variable (name : String)
deriving DecidableEq, Repr

/-- What a source is called in notices. -/
def AddressSource.label : AddressSource → String
  | .commandLine => "command line"
  | .variable name => name

/-- What a text from a source is called in notices. -/
def AddressSource.textLabel : AddressSource → String
  | .commandLine => "command-line URL"
  | .variable name => name

/-- **A notice.** -/
inductive Notice (τ : Type) where
  /-- The settings name a port that does not exist. -/
  | portOutOfRange (value : Nat)
  /-- The settings of the server cannot be read. -/
  | settingsUnreadable (path : Path)
  /-- The settings of the server were read. -/
  | settingsLoaded (path : Path)
  /-- A source names the base address. -/
  | addressTaken (source : AddressSource) (baseUrl : String)
  /-- A source holds a text that names no address. -/
  | addressIgnored (source : AddressSource) (text : String)
  /-- A health check did not get an answer. -/
  | probeFailed (url reason : String)
  /-- A health check got another answer than it wants. -/
  | probeAnswered (url : String) (status : Int)
  /-- A server that was waited for is healthy. -/
  | serverHealthy (baseUrl : String)
  /-- The places that are searched. -/
  | searching (roots : List Path)
  /-- A place without an interpreter. -/
  | noInterpreter (root : Path)
  /-- A place without a server. -/
  | noPayload (root : Path)
  /-- The place where all was found. -/
  | usingRoot (root : Path)
  /-- A bootstrap attempt goes on to another phase. -/
  | phaseChanged (old new : Phase)
  /-- A server was running before. -/
  | alreadyRunning (baseUrl : String)
  /-- A server came up while the runtime was looked for. -/
  | cameUpMeanwhile (baseUrl : String)
  /-- The server is about to be started. -/
  | starting (command : List String) (root : Path)
  /-- The server was started. -/
  | started (pid : Int)
  /-- The keeper has taken charge of the server. -/
  | inCharge (pid : Int)
  /-- A server that did not become healthy is killed. -/
  | killingUnhealthy (pid : Int)
  /-- The server had exited before it was to be stopped. -/
  | alreadyExited (pid : Int) (code : Int)
  /-- The server is about to be stopped. -/
  | stopping (pid : Int)
  /-- The server was asked to stop. -/
  | askedToStop (pid : Int)
  /-- The server was gone before it could be asked to stop. -/
  | goneBeforeAsking (pid : Int)
  /-- The server cannot be asked to stop. -/
  | cannotAsk (pid : Int)
  /-- The server exited in time. -/
  | stopped (pid : Int)
  /-- The server did not exit in time. -/
  | notStopped (pid : Int) (timeout : τ)
  /-- The server was killed. -/
  | killed (pid : Int)
  /-- A bootstrap attempt was given up. -/
  | bootstrapFailed (error : LaunchError τ)
  /-- The browser could not be started. -/
  | browserFailed (reason : String)
  /-- There is no browser. -/
  | noBrowser (url : String)
deriving DecidableEq, Repr

namespace Notice

variable {τ : Type}

/-- **The importance of a notice.** -/
def level : Notice τ → Level
  | .portOutOfRange _ | .settingsUnreadable _ | .settingsLoaded _ | .addressTaken _ _
  | .probeFailed _ _ | .probeAnswered _ _ | .searching _ | .noInterpreter _ | .noPayload _
  | .phaseChanged _ _ | .goneBeforeAsking _ | .cannotAsk _ => .debug
  | .serverHealthy _ | .usingRoot _ | .alreadyRunning _ | .cameUpMeanwhile _ | .starting _ _
  | .started _ | .inCharge _ | .alreadyExited _ _ | .stopping _ | .askedToStop _
  | .stopped _ | .killed _ => .info
  | .addressIgnored _ _ | .killingUnhealthy _ | .notStopped _ _ | .noBrowser _ => .warning
  | .bootstrapFailed _ | .browserFailed _ => .error

/-- **The line that is shown for a notice.** -/
def text [Seconds τ] : Notice τ → String
  | .portOutOfRange value => "Ignoring out-of-range server.port " ++ toString value
  | .settingsUnreadable path => "server config not readable at " ++ path.toText
  | .settingsLoaded path => "Loaded server config from " ++ path.toText
  | .addressTaken source baseUrl => "Base URL from " ++ source.label ++ ": " ++ baseUrl
  | .addressIgnored source text =>
    "Ignoring unparseable " ++ source.textLabel ++ ": " ++ Text.quoted text
  | .probeFailed url reason => "Health probe " ++ url ++ " failed: " ++ reason
  | .probeAnswered url status => "Health probe " ++ url ++ " returned " ++ toString status
  | .serverHealthy baseUrl => "Server healthy at " ++ baseUrl
  | .searching roots =>
    "Runtime root candidates: [" ++ Text.quotedAll (roots.map Path.toText) ++ "]"
  | .noInterpreter root => "No interpreter under " ++ root.toText
  | .noPayload root => "No server jar under " ++ root.toText
  | .usingRoot root => "Using runtime root " ++ root.toText
  | .phaseChanged old new => "bootstrap: " ++ old.name ++ " -> " ++ new.name
  | .alreadyRunning baseUrl => "Server already running at " ++ baseUrl
  | .cameUpMeanwhile baseUrl => "Server came up at " ++ baseUrl ++ " during discovery"
  | .starting command root =>
    "Starting server: " ++ " ".intercalate command ++ " (cwd=" ++ root.toText ++ ")"
  | .started pid => "Server process started (PID " ++ toString pid ++ ")"
  | .inCharge pid => "Supervising server process (PID " ++ toString pid ++ ")"
  | .killingUnhealthy pid => "Killing unhealthy server process (PID " ++ toString pid ++ ")"
  | .alreadyExited pid code =>
    "Server process " ++ toString pid ++ " already exited with code " ++ toString code
  | .stopping pid => "Stopping server process (PID " ++ toString pid ++ ")"
  | .askedToStop pid => "Sent SIGTERM to process " ++ toString pid
  | .goneBeforeAsking pid => "Process " ++ toString pid ++ " already gone before SIGTERM"
  | .cannotAsk pid =>
    "No graceful stop available for process " ++ toString pid ++ " on Windows"
  | .stopped pid => "Server process " ++ toString pid ++ " terminated gracefully"
  | .notStopped pid timeout =>
    "Server process " ++ toString pid ++ " did not exit after " ++ Seconds.text timeout
      ++ "s, killing"
  | .killed pid => "Server process " ++ toString pid ++ " killed"
  | .bootstrapFailed error => "launcher bootstrap failed: " ++ error.message
  | .browserFailed reason => "Failed to launch browser: " ++ reason
  | .noBrowser url => "No browser available, open " ++ url ++ " manually"

end Notice

end LocalServer
