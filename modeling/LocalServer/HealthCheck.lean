import LocalServer.Text.Blank
import LocalServer.World.Machine

/-!
# Health checks

A server is healthy if it answers a request for one fixed path with the
status 200, and with nothing else. A request that gets no answer is an
answer too: the server is not healthy. Waiting for a server is checking it
again and again, with pauses, until it is healthy or the time is up.
-/

namespace LocalServer.HealthCheck

open Act

variable {τ : Type} [Seconds τ]

/-- The path that is asked for. -/
def endpoint : String := "/api/v1/settings/about/"

/-- The usual time between two checks, which is also the time that a check
may take. -/
def pollInterval : τ := 0.3

/-- The usual time to wait for a server. -/
def patience : τ := 60.0

/-- The status of a healthy server. -/
def healthyStatus : Int := 200

/-- **The address of the health check** for a server at a base address. -/
def url (baseUrl : String) : String :=
  String.ofList (Text.dropTrailing (· == '/') baseUrl.toList) ++ endpoint

/-- **One health check.** -/
def check (baseUrl : String) (timeout : τ) : Act τ Bool := do
  match ← Machine.probe (url baseUrl) timeout with
  | .status code =>
    if code = healthyStatus then pure true
    else
      note (.probeAnswered (url baseUrl) code)
      pure false
  | .failed reason =>
    note (.probeFailed (url baseUrl) reason)
    pure false
  | .broken e => raise e

/-- **Waiting for a server** until it is healthy; `false` if the time is up
before. -/
def await (baseUrl : String) (timeout interval : τ) : Act τ Bool := do
  let start ← look World.clock
  loop do
    let now ← look World.clock
    if now - start < timeout then
      if ← check baseUrl interval then
        note (.serverHealthy baseUrl)
        pure (some true)
      else
        Machine.sleep interval
        pure none
    else pure (some false)

end LocalServer.HealthCheck
