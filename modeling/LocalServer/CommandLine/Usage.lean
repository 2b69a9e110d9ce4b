import LocalServer.CommandLine.Options
import LocalServer.Text.Terminal

/-!
# Texts of the command line

The texts that are printed instead of doing any work.
-/

namespace LocalServer.CommandLine

/-- Several lines, each ended. -/
def linesOf (ls : List String) : String :=
  String.join (ls.map (· ++ "\n"))

/-- How the program is called. -/
def usageLine : String :=
  "Usage: suwayomi-launcher [OPTIONS] [URL]"

/-- **The text of help.** -/
def helpText : String :=
  linesOf [
    usageLine,
    "",
    "  Start (or reuse) a local Suwayomi server and open its web UI.",
    "",
    "  URL overrides the server address, e.g. http://127.0.0.1:4567",
    "",
    "Options:",
    "  --version                 Show the version and exit.",
    "  --resource-dir DIRECTORY  Extra directory to search for jre/ and bin/Suwayomi-",
    "                            Server.jar",
    "  --no-browser              Do not open the web UI in the default browser",
    "  -v, --verbose             Enable debug logging",
    "  --help                    Show this message and exit."]

/-- **The text of the version.** -/
def versionText : String :=
  linesOf ["suwayomi-launcher, version 0.1.0"]

/-- **The text of a usage error.** It may repeat what was typed in, so it is
freed of what only a terminal understands. -/
def UsageError.text (e : UsageError) : String :=
  Text.plainOutput <| linesOf <|
    (if e.remindsOfUsage then
      [usageLine, "Try 'suwayomi-launcher --help' for help.", ""]
    else []) ++ ["Error: " ++ e.sentence]

/-- The text when an interruption from the keyboard ends the program. -/
def abortedText : String :=
  linesOf ["", "Aborted!"]

end LocalServer.CommandLine
