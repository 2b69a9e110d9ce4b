import LocalServer.Environment

/-!
# Platforms

All that differs between operating systems: how an application is laid out
on disk, what the interpreter is called, where a program keeps its data,
whether a console window has to be hidden, and whether a process can be
asked to stop.
-/

namespace LocalServer

variable {τ : Type}

/-- **The platforms** that are told apart. Every system that is neither
Windows nor macOS is treated like Linux. -/
inductive Platform where
  | linux
  | macos
  | windows
deriving DecidableEq, Repr

namespace Platform

/-- The name of a platform. -/
def name : Platform → String
  | .linux => "linux"
  | .macos => "macos"
  | .windows => "windows"

/-- The platform of a name. -/
def ofName? : String → Option Platform
  | "linux" => some .linux
  | "macos" => some .macos
  | "windows" => some .windows
  | _ => none

@[simp] theorem ofName?_name (p : Platform) : ofName? p.name = some p := by
  cases p <;> rfl

/-- The platform of an operating system that calls itself so. -/
def ofSystem : String → Platform
  | "Windows" => .windows
  | "Darwin" => .macos
  | _ => .linux

/-- **The platform asked for**, or that of the operating system when none
is asked for by name. -/
def select (system : String) (wanted : Option String) : Except (Fault τ) Platform :=
  match wanted with
  | none | some "" => .ok (ofSystem system)
  | some name =>
    match ofName? name with
    | some p => .ok p
    | none => .error (.failure .invalidValue ("Unknown platform: " ++ name))

/-- The file name of the interpreter. -/
def interpreterFile : Platform → String
  | .windows => "java.exe"
  | _ => "java"

/-- **Where an application is**, given the directory of its executable. In
an application bundle of macOS the executable is one level further in. -/
def appDirectory (p : Platform) (directory : Path) : Path :=
  match p with
  | .macos => if directory.lastName? = some "MacOS" then directory.parent else directory
  | _ => directory

/-- **Further places** in which an application bundle keeps its files. -/
def furtherRoots (p : Platform) (app : Path) : List Path :=
  match p with
  | .macos => [app.child "Resources", (app.child "Resources").child "resources"]
  | _ => []

/-- The flag that keeps a process from opening a console window, where
there is one to pass. -/
def creationFlags? : Platform → Option Nat
  | .windows => some 0x08000000
  | _ => none

/-- Whether a process can be asked to stop before it is killed. -/
def canAskToStop : Platform → Bool
  | .windows => false
  | _ => true

/-- **Where programs keep the data of a user.** A setting counts if it is
not blank; on Linux it also has to be an absolute path. -/
def dataDirectory (p : Platform) (env : Environment) : Except (Fault τ) Path :=
  match p with
  | .linux =>
    let setting := Path.ofString (env.trimmed "XDG_DATA_HOME")
    if setting.isAbsolute then .ok setting
    else env.home.map fun home => (home.child ".local").child "share"
  | .macos => env.home.map fun home => (home.child "Library").child "Application Support"
  | .windows =>
    let setting := env.trimmed "LOCALAPPDATA"
    if setting ≠ "" then .ok (.ofString setting)
    else env.home.map fun home => (home.child "AppData").child "Local"

end Platform

end LocalServer
