import LocalServer.ServerSettings

/-!
# Which address to use

The base address is taken from the first source that names one: the command
line, then a variable of the environment, then the settings of the server,
or their defaults. A source that is empty is passed over in silence. One
that holds a text which names no address is passed over too, with a
warning. Later sources are not even looked at once one has been taken.
-/

namespace LocalServer.Address

variable {τ : Type}

/-- The variable that names the base address. -/
def baseUrlVariable : String := "SUWAYOMI_BASE_URL"

/-- **What a source says**: the base address that its text names. -/
def fromSource (source : AddressSource) (text : Option String) : Finding τ (Option String) :=
  match text with
  | none | some "" => pure none
  | some text =>
    match BaseUrl.ofUrl? text with
    | some baseUrl => do
      .tell (.addressTaken source baseUrl)
      pure (some baseUrl)
    | none => do
      .tell (.addressIgnored source text)
      pure none

/-- The base address by the settings of the server. -/
def fromSettings (env : Environment) (platform : Platform) (files : FileTree) :
    Finding τ String := do
  let settings ← ServerSettings.ofFiles env platform files
  pure (settings.getD ServerSettings.default).baseUrl

/-- **The base address**, from the first source that names one. -/
def choose (commandLine : Option String) (env : Environment) (platform : Platform)
    (files : FileTree) : Finding τ String := do
  match ← fromSource .commandLine commandLine with
  | some baseUrl => pure baseUrl
  | none =>
    match ← fromSource (.variable baseUrlVariable) (env.get? baseUrlVariable) with
    | some baseUrl => pure baseUrl
    | none => fromSettings env platform files

end LocalServer.Address
