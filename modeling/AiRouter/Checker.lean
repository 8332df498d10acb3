import AiRouter.Handler

/-
# The background health checker (health/checker.rs:137-194)

| here | there |
| --- | --- |
| `ProbeReply`             | what `GET {url}/health` comes to |
| `AppState.probed`        | the three arms of the match on it |
| `AppState.checkAllEndpoints` | `check_all_endpoints`: every endpoint of every model in turn |

The interval timer and the gauge of banned endpoints are left out. A mask that panics ends the
checker's task for good.
-/
namespace AiRouter

inductive ProbeReply where
  | status (code : Nat)
  /-- `timeout`, `connection refused` or the error's own text -/
  | error (reason : String)
deriving DecidableEq, Repr

/-- What the outside does around one probe. -/
structure Probe where
  before : Others
  reply : ProbeReply
  doneAt : Nat

namespace AppState

/-- One probe's answer. A breaker that is banning keeps its counters. -/
def probed (app : AppState) (epKey : String) (reply : ProbeReply) (now : Nat) : AppState :=
  let banned := app.fail2ban.isBanned epKey now
  match reply with
  | .status code =>
    if isSuccess code then
      { app with
        healthStore := app.healthStore.setHealthy epKey now
        fail2ban := if banned.2 then banned.1.reset epKey else banned.1 }
    else
      { app with
        healthStore := app.healthStore.setUnhealthy epKey ("HTTP " ++ toString code) now
        fail2ban := if banned.2 then banned.1 else (banned.1.recordFailureWithCode epKey code now).1 }
  | .error reason =>
    { app with
      healthStore := app.healthStore.setUnhealthy epKey reason now
      fail2ban := if banned.2 then banned.1 else (banned.1.recordFailure epKey now).1 }

/-- The key the checker keeps an endpoint under: the handler's. -/
def probeKey (ep : EndpointConfig) : Except Panic String := (Utils.maskKey ep.key).map (joinKey ep.url)

/-- One endpoint of the round. -/
def probeEndpoint (app : AppState) (ep : EndpointConfig) (p : Probe) : AppState × Option Panic :=
  match probeKey ep with
  | .error e => (app, some e)
  | .ok epKey => ((app.disturb p.before).probed epKey p.reply p.doneAt, none)

/-- The round over a list of endpoints, probes numbered from `k`. -/
def probeAll (probe : Nat → Probe) : List EndpointConfig → Nat → AppState → AppState × Option Panic
  | [], _, app => (app, none)
  | ep :: rest, k, app =>
    match app.probeEndpoint ep (probe k) with
    | (app, some e) => (app, some e)
    | (app, none) => probeAll probe rest (k + 1) app

def checkAllEndpoints (app : AppState) (probe : Nat → Probe) : AppState × Option Panic :=
  probeAll probe (app.config.models.flatMap (·.endpoints)) 0 app

end AppState

theorem probeKey_eq (ep : EndpointConfig) : AppState.probeKey ep = Handler.epKey ep.url ep.key := rfl

end AiRouter
