import LocalServer.Fault
import LocalServer.Path
import LocalServer.Text.Blank

/-!
# Environment variables

Settings are read from the variables of the process, or from variables
that a host gives instead of them. The home directory is always that of
the process, and the variables are all that is asked for it.
-/

namespace LocalServer

variable {τ : Type}

/-- **Variables** by name; of two of one name the first counts. -/
abbrev Variables := List (String × String)

namespace Variables

/-- The variables without one. -/
def erase (vs : Variables) (name : String) : Variables :=
  vs.filter (·.1 ≠ name)

/-- The variables with one set anew. -/
def insert (vs : Variables) (name value : String) : Variables :=
  (name, value) :: vs.erase name

end Variables

/-- **An environment**: the variables of the process, and those that a host
gives instead, if it does. -/
structure Environment where
  /-- The variables of the process. -/
  process : Variables
  /-- The variables that a host gives. -/
  given : Option Variables
deriving DecidableEq, Repr

namespace Environment

/-- The variables that settings are read from. -/
def current (env : Environment) : Variables :=
  env.given.getD env.process

/-- A variable, if it is set. -/
def get? (env : Environment) (name : String) : Option String :=
  env.current.lookup name

/-- A variable without the blanks around it; empty if it is not set. -/
def trimmed (env : Environment) (name : String) : String :=
  Text.trimmed ((env.get? name).getD "")

/-- **The home directory**, as the process knows it. Slashes at its end are
dropped; nothing left of it means the root. A home that starts with `~` is
none.

There is no database of users here: where `HOME` is not set an operating
system would go on to ask one, and here the home directory is not known. -/
def home (env : Environment) : Except (Fault τ) Path :=
  match env.process.lookup "HOME" with
  | none => .error .unknownHome
  | some text =>
    let kept := Text.dropTrailing (· == '/') text.toList
    if kept.head? = some '~' then .error .unknownHome
    else if kept = [] then .ok (.ofString "/")
    else .ok (.ofString (String.ofList kept))

/-- **A path with the home directory in place of a first `~`.** The home of
another user, written `~name`, would stand in a database of users. There is
none here, so that it is the same for every name as for one that nobody has:
it is not known. A name that cannot be handed to the operating system is not
even looked up. -/
def expandHome (env : Environment) (p : Path) : Except (Fault τ) Path :=
  match p.start, p.names with
  | .here, name :: rest =>
    if name = "~" then
      env.home.map fun home => { home with names := home.names ++ rest }
    else if name.toList.head? = some '~' then
      .error (if name.toList.contains '\x00' then .mutePath else .unknownHome)
    else .ok p
  | _, _ => .ok p

/-- A variable set anew, or unset, where settings are read from. -/
def update (env : Environment) (name : String) (value : Option String) : Environment :=
  let change := fun (vs : Variables) =>
    match value with
    | some value => vs.insert name value
    | none => vs.erase name
  match env.given with
  | some vs => { env with given := some (change vs) }
  | none => { env with process := change env.process }

end Environment

end LocalServer
