import LocalServer.Seconds
import LocalServer.Text.DecimalDigit

/-!
# What can go wrong

A **launch error** is a reason to give up a bootstrap attempt; whoever
asked for it goes on with an address that has not been checked. Everything
else that can interrupt an action is a **fault** of another kind: a failure
of the machine or of a caller, an interruption from the keyboard, or the
wish to exit with a given code.
-/

namespace LocalServer

variable {τ : Type}

/-- **Why a bootstrap attempt is given up.** -/
inductive LaunchError (τ : Type) where
  /-- There is no executable to start the search from, or nothing to
  search. -/
  | nowhereToSearch (message : String)
  /-- The runtime or the server is not where it has to be. -/
  | absent (path : String)
  /-- The operating system refused to start the server. -/
  | refused (reason : String)
  /-- The server did not answer in time. -/
  | silent (baseUrl : String) (timeout : τ)
  /-- The base address cannot be used. -/
  | unusable (value : String)
  /-- Any other reason. -/
  | general (message : String)
deriving DecidableEq, Repr

namespace LaunchError

/-- The search has no executable to start from. -/
def unknownExecutable : LaunchError τ :=
  .nowhereToSearch "could not determine launcher executable path"

/-- The search has nothing to look through. -/
def nothingToSearch : LaunchError τ :=
  .nowhereToSearch "no runtime root candidates to search"

/-- **The text of a launch error.** -/
def message [Seconds τ] : LaunchError τ → String
  | .nowhereToSearch message => message
  | .absent path => "required file is missing: " ++ path
  | .refused reason => "failed to start server process: " ++ reason
  | .silent baseUrl timeout =>
    "server did not become healthy at " ++ baseUrl ++ " within " ++ Seconds.text timeout
      ++ " seconds"
  | .unusable value => "invalid base url: " ++ value
  | .general message => message

end LaunchError

/-- **The kinds of failure** that are not launch errors. -/
inductive FailureKind where
  /-- A value that cannot be used. -/
  | invalidValue
  /-- A text that cannot be encoded or decoded. -/
  | invalidText
  /-- A state that must not be reached. -/
  | illegalState
  /-- A stream that is used in the wrong order. -/
  | brokenStream
  /-- A value of the wrong type. -/
  | wrongType
  /-- A key that is not there. -/
  | missingKey
  /-- A call that the operating system refuses. -/
  | system
  /-- A call that the operating system does not permit. -/
  | notPermitted
  /-- A file that the operating system does not find. -/
  | fileNotFound
  /-- A process that the operating system does not find. -/
  | processNotFound
  /-- A place at which something stands already. -/
  | alreadyThere
  /-- A way that leads through something other than a directory. -/
  | notADirectory
  /-- A directory where a file is wanted. -/
  | isADirectory
  /-- A line for the user whose tags do not fit together. -/
  | brokenMarkup
deriving DecidableEq, Repr

/-- The failures that come from the operating system. -/
def FailureKind.isSystem : FailureKind → Bool
  | .system | .notPermitted | .fileNotFound | .processNotFound | .alreadyThere | .notADirectory
  | .isADirectory => true
  | _ => false

/-- **What can interrupt an action.** -/
inductive Fault (τ : Type) where
  /-- A bootstrap attempt is given up. -/
  | launch (error : LaunchError τ)
  /-- Something fails. -/
  | failure (kind : FailureKind) (message : String)
  /-- The user interrupts from the keyboard. -/
  | interrupted
  /-- The program is to exit with a code. -/
  | exit (code : Int)
deriving DecidableEq, Repr

namespace Fault

/-- Failures are faults of the work itself; interruptions and exits are
wishes from outside, which only a clean-up heeds. -/
def isFailure : Fault τ → Bool
  | .launch _ | .failure _ _ => true
  | .interrupted | .exit _ => false

/-- The home directory is not known. -/
def unknownHome : Fault τ :=
  .failure .illegalState "Could not determine home directory."

/-- A path that cannot be handed to the operating system. -/
def mutePath : Fault τ :=
  .failure .invalidValue "embedded null byte"

/-- A name that is too long to look up. -/
def nameTooLong : Fault τ :=
  .failure .system "File name too long"

/-- A number without a digit. -/
def noDigits : Fault τ :=
  .failure .invalidValue "invalid literal for int() with base 10: ''"

/-- Tags that do not fit together. -/
def brokenMarkup : Fault τ :=
  .failure .brokenMarkup ""

/-- A number with more digits than are read. -/
def tooManyDigits (count : Nat) : Fault τ :=
  .failure .invalidValue <|
    "Exceeds the limit (" ++ toString Text.digitLimit
      ++ " digits) for integer string conversion: value has "
      ++ toString count ++ " digits; use sys.set_int_max_str_digits() to increase the limit"

end Fault

end LocalServer
