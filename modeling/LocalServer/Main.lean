import LocalServer.CommandLine.Run

/-!
# The program on this machine

The outer layer: the variables, the files and the command line are read
from the machine, and what is seen of the run is printed. Nothing here can
ask a server or start a process, so in this layer nobody answers and every
start is refused; the program then says so and goes on in degraded mode.
-/

namespace LocalServer.Machine

/-- The variables that settings are read from. -/
def variableNames : List String :=
  ["HOME", "XDG_DATA_HOME", "LOCALAPPDATA", Address.baseUrlVariable,
    ServerSettings.pathVariable, Discovery.dataRootVariable]

/-- The paths that a run may look at. -/
def relevantPaths (words : List String) (env : Environment) (executable : String)
    (files : FileTree) : List Path :=
  let settings : Except (Fault Float) Path := ServerSettings.path env .linux
  let app : Except (Fault Float) Path := Discovery.appDirectory executable .linux files
  let resources := words.map Path.ofString
  let roots := resources.flatMap (fun dir => [dir, dir.child "resources"])
    ++ (match app with
      | .ok app => Discovery.roots none app .linux
      | .error _ => [])
  (match settings with
    | .ok path => [path]
    | .error _ => [])
  ++ resources ++ roots.flatMap fun root => [Discovery.interpreter root .linux,
    Discovery.payload root]

/-- A line for an event that a user wants to see. -/
def line? : Event Float → Option String
  | .notice n => some (n.level.name ++ " " ++ n.text)
  | .print text => some text
  | .openBrowser url => some ("Open " ++ url)
  | _ => none

/-- The file tree with those of the given paths that lead to something. -/
def readFiles (files : FileTree) : List Path → IO FileTree
  | [] => pure files
  | path :: rest => do
    let here ← IO.currentDir
    let place := here / path.toText
    if ← place.isDir then readFiles (files.insert path .directory).1 rest
    else if ← place.pathExists then
      let bytes ← IO.FS.readBinFile place
      readFiles (files.insert path (.file bytes)).1 rest
    else readFiles files rest

/-- The variables of the process, as far as they are of interest. -/
def readVariables : List String → IO Variables
  | [] => pure []
  | name :: rest => do
    let value ← IO.getEnv name
    let others ← readVariables rest
    pure (match value with
      | some value => (name, value) :: others
      | none => others)

end LocalServer.Machine

open LocalServer in
/-- **The program.** -/
def main (words : List String) : IO UInt32 := do
  let env : Environment := ⟨← Machine.readVariables Machine.variableNames, none⟩
  let executable := (← IO.appPath).toString
  let nothing := FileTree.empty (Path.ofString (← IO.currentDir).toString).names
  let files ← Machine.readFiles nothing (Machine.relevantPaths words env executable nothing)
  let refused : ChildScript Float :=
    { ChildScript.plain with refusal := some (.failure .system "no processes can be started") }
  let world : World Float :=
    { World.still 0.0 files env with scripts := [refused], executable := executable }
  let some report := CommandLine.run words world | return 0
  (← IO.getStdout).putStr report.output
  for event in report.events do
    match Machine.line? event with
    | some line => (← IO.getStderr).putStrLn line
    | none => pure ()
  pure (UInt32.ofNat report.exitCode.toNat)
