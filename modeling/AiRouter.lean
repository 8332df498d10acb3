import AiRouter.Lib.ByteSlice
import AiRouter.Lib.DotSegments
import AiRouter.Lib.EventStream
import AiRouter.Lib.FirstInfix
import AiRouter.Lib.FixedWindow
import AiRouter.Lib.Framing
import AiRouter.Lib.Gate
import AiRouter.Lib.Gcra
import AiRouter.Lib.GroupBy
import AiRouter.Lib.Interleaving
import AiRouter.Lib.KeyMap
import AiRouter.Lib.LastOf
import AiRouter.Lib.LeakyBucket
import AiRouter.Lib.Loop
import AiRouter.Lib.Overdraft
import AiRouter.Lib.PrefixSum
import AiRouter.Lib.Purge
import AiRouter.Lib.RoundRobin
import AiRouter.Lib.SortedAssoc
import AiRouter.Lib.Steps
import AiRouter.Lib.TokenBucket
import AiRouter.Lib.Trim
import AiRouter.Lib.Utf8
import AiRouter.Keys
import AiRouter.Config
import AiRouter.Inheritance
import AiRouter.Watcher
import AiRouter.Expansion
import AiRouter.Balancer
import AiRouter.Fail2ban
import AiRouter.Limiter
import AiRouter.Sync
import AiRouter.Stores
import AiRouter.Stats
import AiRouter.Usage
import AiRouter.Normalize
import AiRouter.State
import AiRouter.BasePath
import AiRouter.UpstreamPath
import AiRouter.Handler
import AiRouter.Generic
import AiRouter.Multipart
import AiRouter.GenericBody
import AiRouter.RequestBody
import AiRouter.Checker
import AiRouter.HandlerSpec
import AiRouter.Reach
import AiRouter.RetryLoop
import AiRouter.WeightedPicks
import AiRouter.FirstFit
import AiRouter.WeightedOffset
import AiRouter.BanRespect
import AiRouter.ModelAccess
import AiRouter.SelectionPanics
import AiRouter.CallGuards
import AiRouter.Snapshot
import AiRouter.SessionAffinity
import AiRouter.StickyHistory
import AiRouter.StickyRaces
import AiRouter.RpmQuota
import AiRouter.RejectedRequests
import AiRouter.Ledger
import AiRouter.TpmAccounting
import AiRouter.TpmHistory
import AiRouter.RefillRounding
import AiRouter.UsageWindow
import AiRouter.Eviction
import AiRouter.RpmWindow
import AiRouter.Overdraft
import AiRouter.Subjects
import AiRouter.Budgets
import AiRouter.Reload
import AiRouter.Comments
import AiRouter.Isolation
import AiRouter.Records
import AiRouter.HealthCounts
import AiRouter.FailureCounting
import AiRouter.BanHistory
import AiRouter.Polls
import AiRouter.SharedBans
import AiRouter.SharedCounters
import AiRouter.CounterExpiry
import AiRouter.StreamParity
import AiRouter.StreamTask
import AiRouter.EventStreams
import AiRouter.BodyFidelity
import AiRouter.Answers
import AiRouter.Anthropic
import AiRouter.RequestCounts
import AiRouter.Aggregation
import AiRouter.Retention
import AiRouter.Billing
import AiRouter.Aggregators
import AiRouter.Dashboard
import AiRouter.Server
import AiRouter.Rekey
import AiRouter.Mediation
import AiRouter.HiddenKeys
import AiRouter.ServerQuota
import AiRouter.HealthRounds
import AiRouter.BanCauses
import AiRouter.SharedWindow
import AiRouter.Failover
import AiRouter.Moves
import AiRouter.Tenants
import AiRouter.LiveTotals
