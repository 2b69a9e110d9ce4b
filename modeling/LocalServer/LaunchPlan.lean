import LocalServer.Path

/-!
# Launch plans

A **launch plan** is all that is needed to start a server: the directory it
runs in, the interpreter and the program to hand to it, the base address it
will answer at, and the directory for its data if that is not the usual
one. `LaunchPlan.command` is the command line that carries it out.
-/

namespace LocalServer

/-- **What is needed to start a server.** -/
structure LaunchPlan where
  /-- The directory the server runs in. -/
  root : Path
  /-- The interpreter. -/
  interpreter : Path
  /-- The program that the interpreter runs. -/
  payload : Path
  /-- The base address at which the server will answer. -/
  baseUrl : String
  /-- The directory for the data of the server, if it is set. -/
  dataRoot : Option String
deriving DecidableEq, Repr

namespace LaunchPlan

/-- A property of the server, as an argument of the interpreter. -/
def property (name value : String) : String :=
  "-Dsuwayomi.tachidesk.config.server." ++ name ++ "=" ++ value

/-- **The properties that are set**: the server opens no browser of its
own, serves its interface to browsers, and keeps its data where it is told
to. -/
def properties (dataRoot : Option String) : List String :=
  [property "initialOpenInBrowserEnabled" "false", property "webUIInterface" "browser"]
    ++ (dataRoot.map (property "rootDir")).toList

/-- **The command line** that starts the server. -/
def command (plan : LaunchPlan) : List String :=
  plan.interpreter.toText :: properties plan.dataRoot ++ ["-jar", plan.payload.toText]

end LaunchPlan

end LocalServer
