import AiRouter.Lib.KeyMap
import Mathlib.Algebra.GroupWithZero.Nat

/-
# Session affinity, health records and live counters

| here | there |
| --- | --- |
| `SessionStickyStore` | router/sticky.rs |
| `HealthStore`        | health/checker.rs:23-114 |
| `LiveStats`          | proxy/handler.rs:46-69 |

All three are maps under strings; the health and live counters wrap.
-/
namespace AiRouter

/-! ## Sticky sessions -/

structure StickyEntry where
  endpointIndex : Nat
  lastAccess : Nat
deriving DecidableEq, Repr

structure SessionStickyStore where
  sessions : KeyMap String StickyEntry
  ttlSecs : Nat

namespace SessionStickyStore

/-- The session's endpoint index; an entry past its TTL is removed. -/
def get (s : SessionStickyStore) (sessionId : String) (now : Nat) : SessionStickyStore × Option Nat :=
  match s.sessions.lookup sessionId with
  | none => (s, none)
  | some entry =>
    if (now - entry.lastAccess) / 10 ^ 9 < s.ttlSecs then (s, some entry.endpointIndex)
    else ({ s with sessions := s.sessions.erase sessionId }, none)

def set (s : SessionStickyStore) (sessionId : String) (endpointIndex now : Nat) : SessionStickyStore :=
  { s with sessions := s.sessions.insert sessionId { endpointIndex := endpointIndex, lastAccess := now } }

def touch (s : SessionStickyStore) (sessionId : String) (now : Nat) : SessionStickyStore :=
  { s with sessions := s.sessions.adjust sessionId fun entry => { entry with lastAccess := now } }

/-- Dead code outside the tests. -/
def cleanup (s : SessionStickyStore) (now : Nat) : SessionStickyStore :=
  { s with sessions := s.sessions.retain fun entry => (now - entry.lastAccess) / 10 ^ 9 < s.ttlSecs }

end SessionStickyStore

/-! ## Health records -/

structure EndpointHealth where
  healthy : Bool
  lastError : String
  lastLatencyMs : Nat
  lastCheck : Nat
  requestCount : Nat
  errorCount : Nat
deriving DecidableEq, Repr

def EndpointHealth.fresh (healthy : Bool) (lastError : String) (now : Nat) : EndpointHealth where
  healthy := healthy
  lastError := lastError
  lastLatencyMs := 0
  lastCheck := now
  requestCount := 0
  errorCount := 0

structure HealthStore where
  states : KeyMap String EndpointHealth
  totalRequests : Nat
  totalErrors : Nat

namespace HealthStore

def setHealthy (s : HealthStore) (key : String) (now : Nat) : HealthStore :=
  { s with
    states := s.states.upsert key (.fresh true "" now) fun entry =>
      { entry with healthy := true, lastError := "", lastCheck := now } }

def setUnhealthy (s : HealthStore) (key error : String) (now : Nat) : HealthStore :=
  { s with
    states := s.states.upsert key (.fresh false error now) fun entry =>
      { entry with healthy := false, lastError := error, lastCheck := now } }

def recordLatency (s : HealthStore) (key : String) (latencyMs : Nat) : HealthStore :=
  { s with states := s.states.adjust key fun entry => { entry with lastLatencyMs := latencyMs } }

/-- Counts in the total always, in an entry only when the checker has made one. -/
def recordRequest (s : HealthStore) (key : String) : HealthStore where
  states := s.states.adjust key fun entry => { entry with requestCount := (entry.requestCount + 1) % 2 ^ 64 }
  totalRequests := (s.totalRequests + 1) % 2 ^ 64
  totalErrors := s.totalErrors

def recordError (s : HealthStore) (key : String) : HealthStore where
  states := s.states.adjust key fun entry => { entry with errorCount := (entry.errorCount + 1) % 2 ^ 64 }
  totalRequests := s.totalRequests
  totalErrors := (s.totalErrors + 1) % 2 ^ 64

/-! A record touches no other endpoint's entry. -/

variable (s : HealthStore) {k k' : String}

theorem setHealthy_lookup_ne (now : Nat) (h : k' ≠ k) :
    (s.setHealthy k now).states.lookup k' = s.states.lookup k' := KeyMap.lookup_upsert_ne _ _ _ h

theorem setUnhealthy_lookup_ne (error : String) (now : Nat) (h : k' ≠ k) :
    (s.setUnhealthy k error now).states.lookup k' = s.states.lookup k' :=
  KeyMap.lookup_upsert_ne _ _ _ h

theorem recordLatency_lookup_ne (latencyMs : Nat) (h : k' ≠ k) :
    (s.recordLatency k latencyMs).states.lookup k' = s.states.lookup k' :=
  KeyMap.lookup_adjust_ne _ _ h

theorem recordRequest_lookup_ne (h : k' ≠ k) :
    (s.recordRequest k).states.lookup k' = s.states.lookup k' := KeyMap.lookup_adjust_ne _ _ h

theorem recordError_lookup_ne (h : k' ≠ k) :
    (s.recordError k).states.lookup k' = s.states.lookup k' := KeyMap.lookup_adjust_ne _ _ h

end HealthStore

/-! ## Live counters -/

structure LiveStats where
  requestsTotal : Nat
  requestsByToken : KeyMap String Nat
  requestsByTeam : KeyMap String Nat
  requestsByEndpoint : KeyMap String Nat
  errorsByToken : KeyMap String Nat
  errorsByTeam : KeyMap String Nat
  errorsByEndpoint : KeyMap String Nat

namespace LiveStats

def count (m : KeyMap String Nat) (key : String) : KeyMap String Nat :=
  m.upsert key 0 fun n => (n + 1) % 2 ^ 64

def recordRequest (s : LiveStats) (token team endpoint : String) : LiveStats :=
  { s with
    requestsTotal := (s.requestsTotal + 1) % 2 ^ 64
    requestsByToken := count s.requestsByToken token
    requestsByTeam := count s.requestsByTeam team
    requestsByEndpoint := count s.requestsByEndpoint endpoint }

def recordError (s : LiveStats) (token team endpoint : String) : LiveStats :=
  { s with
    errorsByToken := count s.errorsByToken token
    errorsByTeam := count s.errorsByTeam team
    errorsByEndpoint := count s.errorsByEndpoint endpoint }

end LiveStats

end AiRouter
