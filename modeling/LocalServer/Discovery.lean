import LocalServer.FileTree.Basic
import LocalServer.Finding
import LocalServer.LaunchPlan
import LocalServer.Platform

/-!
# Finding the runtime

The server comes with an interpreter of its own. Both are looked for under
one of several **roots**: the directory for resources that the host knows,
the directory of the application, and where bundles of the platform keep
their files. The first root that holds both is used.

When no root will do, the error names the file to look after first: an
interpreter that is missing comes before a server that is missing, and an
earlier root before a later one.
-/

namespace LocalServer.Discovery

variable {τ : Type}

/-! ## Where to look -/

/-- The list without a path that stands in it before. -/
def dedup : List Path → List Path
  | [] => []
  | p :: ps => p :: (dedup ps).filter (· ≠ p)

/-- **All roots**, in the order in which they are searched. -/
def candidates (resources : Option Path) (app : Path) (platform : Platform) : List Path :=
  (match resources with
    | some dir => [dir, dir.child "resources"]
    | none => [])
  ++ [app, app.child "resources"] ++ platform.furtherRoots app

/-- **The roots to search**: each once, where it stands first. -/
def roots (resources : Option Path) (app : Path) (platform : Platform) : List Path :=
  dedup (candidates resources app platform)

/-- The interpreter under a root. -/
def interpreter (root : Path) (platform : Platform) : Path :=
  ((root.child "jre").child "bin").child platform.interpreterFile

/-- The server under a root. -/
def payload (root : Path) : Path :=
  (root.child "bin").child "Suwayomi-Server.jar"

/-- **The directory of the application** whose executable is given. Without
one, or at a root, there is none. -/
def appDirectory (executable : String) (platform : Platform) (files : FileTree) :
    Except (Fault τ) Path :=
  let path := files.workingPath.join (.ofString executable)
  if executable = "" ∨ path.names = [] then .error (.launch .unknownExecutable)
  else .ok (platform.appDirectory path.parent)

/-! ## Looking -/

/-- **What a search has found**: a root with its interpreter and its
server. -/
structure Installation where
  /-- The root. -/
  root : Path
  /-- The interpreter under it. -/
  interpreter : Path
  /-- The server under it. -/
  payload : Path
deriving DecidableEq, Repr

/-- The installation under a root. -/
def installation (root : Path) (platform : Platform) : Installation :=
  ⟨root, interpreter root platform, payload root⟩

/-- Whether something stands where a path leads; an error if the path
cannot be looked up. -/
def lookUp (files : FileTree) (path : Path) : Finding τ Bool :=
  match files.exists? path with
  | some found => pure found
  | none => .fail .nameTooLong

/-- What is missing so far: the first interpreter and the first server that
were not there. -/
structure Missing where
  /-- The first interpreter that was not there. -/
  interpreter : Option Path
  /-- The first server that was not there. -/
  payload : Option Path
deriving DecidableEq, Repr

/-- Why a search that found nothing fails. -/
def Missing.error (missing : Missing) : LaunchError τ :=
  match missing.interpreter, missing.payload with
  | some path, _ => .absent path.toText
  | none, some path => .absent path.toText
  | none, none => .nothingToSearch

/-- The search under the given roots, when something is missing already. -/
def search (platform : Platform) (files : FileTree) (missing : Missing) :
    List Path → Finding τ Installation
  | [] => .fail (.launch missing.error)
  | root :: rest => do
    if ← lookUp files (interpreter root platform) then
      if ← lookUp files (payload root) then
        .tell (.usingRoot root)
        pure (installation root platform)
      else
        .tell (.noPayload root)
        search platform files
          { missing with payload := missing.payload.or (some (payload root)) } rest
    else
      .tell (.noInterpreter root)
      search platform files
        { missing with
          interpreter := missing.interpreter.or (some (interpreter root platform)) } rest

/-- **The first root that holds both files.** -/
def find (rs : List Path) (platform : Platform) (files : FileTree) : Finding τ Installation :=
  search platform files ⟨none, none⟩ rs

/-! ## From the executable to a launch plan -/

/-- The variable that names the directory for the data of the server. -/
def dataRootVariable : String := "SUWAYOMI_ROOT_DIR"

/-- **The launch plan** for a server at a base address. -/
def plan (baseUrl : String) (resources : Option Path) (executable : String)
    (env : Environment) (platform : Platform) (files : FileTree) : Finding τ LaunchPlan := do
  let app ← .ofExcept (appDirectory executable platform files)
  let rs := roots resources app platform
  .tell (.searching rs)
  let found ← find rs platform files
  pure ⟨found.root, found.interpreter, found.payload, baseUrl, env.get? dataRootVariable⟩

end LocalServer.Discovery
