import AiRouter.Limiter

/-
# Rows of the `requests` table: `record_request` (stats/pg.rs:147-186)

`cost_approx` is an exact rational, `timestamp` is microseconds. Without a pool nothing is written.
-/
namespace AiRouter

/-- A row of `requests` (pg.rs:50). -/
structure RequestRow where
  timestamp : Int
  model : String
  endpoint : String
  team : String
  tokensPrompt : Int
  tokensCompletion : Int
  latencyMs : Int
  status : Int
  tokenKeyHash : Option String
  costApprox : Rat
deriving DecidableEq, Repr

/-- `pool` is `None` when the statistics are off; its rows otherwise. -/
structure StatsWriter where
  pool : Option (List RequestRow)

def asI16 (x : Int) : Int := x.bmod (2 ^ 16)

namespace StatsWriter

def costOf (tokensPrompt tokensCompletion : Nat) (costPromptPer1m costCompletionPer1m : Rat) : Rat :=
  (tokensPrompt : Rat) / 1000000 * costPromptPer1m
    + (tokensCompletion : Rat) / 1000000 * costCompletionPer1m

/-- A request without a token hash is stored under the empty one. -/
def recordRequest (w : StatsWriter) (model endpoint team : String)
    (tokensPrompt tokensCompletion latencyMs status : Nat) (tokenHash : Option String)
    (costPromptPer1m costCompletionPer1m : Rat) (now : Nat) : StatsWriter where
  pool := w.pool.map fun rows => rows ++
    [{ timestamp := (now / 10 ^ 3 : Nat)
       model := model
       endpoint := endpoint
       team := team
       tokensPrompt := asI64 tokensPrompt
       tokensCompletion := asI64 tokensCompletion
       latencyMs := asI64 latencyMs
       status := asI16 status
       tokenKeyHash := some (tokenHash.getD "")
       costApprox := costOf tokensPrompt tokensCompletion costPromptPer1m costCompletionPer1m }]

end StatsWriter

end AiRouter
