import LocalServer.BaseUrl
import LocalServer.FileTree.Basic
import LocalServer.Finding
import LocalServer.Platform
import LocalServer.Text.Lines

/-!
# The settings of the server

The server keeps its settings in a text file. Three of them say where it
listens: `server.ip`, `server.port` and `server.webUISubpath`. A setting is
**assigned** where its key stands first on a line and is followed by `=`
and a value, with blanks allowed in between; the blanks may hold line ends,
so the value may stand on a later line than its key. The first assignment
counts, and what else the file says does not matter. A setting that is not
assigned has its default.

The address and the subpath are texts in double quotes, the address not
empty; the port is a run of digits.
-/

namespace LocalServer

open Text

variable {τ : Type} {α : Type}

/-- **Where a server listens**, by its settings. -/
structure ServerSettings where
  /-- The address to connect to. -/
  ip : String
  /-- The port. -/
  port : Nat
  /-- The subpath, tidied. -/
  subpath : String
deriving DecidableEq, Repr

namespace ServerSettings

/-- The settings of a server that has none assigned. -/
def default : ServerSettings :=
  ⟨BaseUrl.loopback, 4567, ""⟩

/-- The base address of a server with these settings. -/
def baseUrl (s : ServerSettings) : String :=
  BaseUrl.ofParts s.ip s.port s.subpath

/-! ## Assignments -/

/-- The text from the start of each line on, the first line excepted. -/
def laterLines : List Char → List (List Char)
  | [] => []
  | c :: cs => if c = '\n' then cs :: laterLines cs else laterLines cs

/-- The text from the start of each line on. -/
def lines (cs : List Char) : List (List Char) :=
  cs :: laterLines cs

/-- What follows a key and `=` at the start of a line, without blanks. -/
def afterKey? (key line : List Char) : Option (List Char) :=
  (key.isPrefixOf? (line.dropWhile isBlank)).bind fun rest =>
    match rest.dropWhile isBlank with
    | '=' :: rest => some (rest.dropWhile isBlank)
    | _ => none

/-- A text in double quotes, up to the next quote. -/
def quotedValue? : List Char → Option (List Char)
  | '\x22' :: cs =>
    if '\x22' ∈ cs then some (cutAt '\x22' cs).1 else none
  | _ => none

/-- A text in double quotes that is not empty. -/
def filledValue? (cs : List Char) : Option (List Char) :=
  (quotedValue? cs).filter (· ≠ [])

/-- A run of digits. -/
def digitsValue? (cs : List Char) : Option (List Char) :=
  let ds := cs.takeWhile Char.isDigit
  if ds = [] then none else some ds

/-- **The first assignment** of a key, with the value that `value?` reads
behind `=`. -/
def assigned? (key : String) (value? : List Char → Option (List Char)) (cs : List Char) :
    Option (List Char) :=
  (lines cs).findSome? fun line => (afterKey? key.toList line).bind value?

/-! ## Reading the settings -/

/-- **The port that is assigned**, if it is one. A number beyond the last
port is told and otherwise ignored; a number of too many digits is not
read. -/
def readPort (cs : List Char) : Finding τ Nat :=
  match assigned? "server.port" digitsValue? cs with
  | none => pure default.port
  | some ds =>
    if digitLimit < ds.length then .fail (.tooManyDigits ds.length)
    else
      let value := Nat.ofDigitChars 10 ds 0
      if value ≤ Url.greatestPort then pure value
      else do
        .tell (.portOutOfRange value)
        pure default.port

/-- The address that is assigned. -/
def readIp (cs : List Char) : String :=
  match assigned? "server.ip" filledValue? cs with
  | none => default.ip
  | some value => BaseUrl.connectHost (String.ofList (trim value))

/-- The subpath that is assigned. -/
def readSubpath (cs : List Char) : String :=
  match assigned? "server.webUISubpath" quotedValue? cs with
  | none => default.subpath
  | some value => BaseUrl.tidySubpath (String.ofList (trim value))

/-- **Reading the settings** from the text of the file. -/
def ofText (content : String) : Finding τ ServerSettings := do
  let cs := content.toList
  let port ← readPort cs
  pure ⟨readIp cs, port, readSubpath cs⟩

/-! ## Where the settings are -/

/-- The variable that names the file with the settings. -/
def pathVariable : String := "SUWAYOMI_CONFIG_PATH"

/-- The file that the server uses if it is not told otherwise. -/
def usualPath (env : Environment) (platform : Platform) : Except (Fault τ) Path :=
  (platform.dataDirectory env).map fun dir => (dir.child "Tachidesk").child "server.conf"

/-- **The file with the settings**: the one that the environment names, or
else the usual one. -/
def path (env : Environment) (platform : Platform) : Except (Fault τ) Path :=
  let named := env.trimmed pathVariable
  if named ≠ "" then env.expandHome (.ofString named) else usualPath env platform

/-- **The settings in the file**, if there is a file with text in it. -/
def ofFiles (env : Environment) (platform : Platform) (files : FileTree) :
    Finding τ (Option ServerSettings) := do
  let path ← .ofExcept (path env platform)
  match files.read path with
  | .error .mute => .fail .mutePath
  | .error _ =>
    .tell (.settingsUnreadable path)
    pure none
  | .ok bytes =>
    match ofFile? bytes with
    | none =>
      .tell (.settingsUnreadable path)
      pure none
    | some content =>
      .tell (.settingsLoaded path)
      some <$> ofText content

end ServerSettings

end LocalServer
