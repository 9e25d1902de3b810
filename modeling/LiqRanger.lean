import LiqRanger.Effect.Invariant
import LiqRanger.Pipeline.Engine
import LiqRanger.Pipeline.Attribution
import LiqRanger.Pipeline.Broadcast
import LiqRanger.Pipeline.Properties
import LiqRanger.Core.Constants
import LiqRanger.Core.Identity
import LiqRanger.Morpho.Exact
import LiqRanger.Morpho.Math
import LiqRanger.Morpho.Adapter
import LiqRanger.Morpho.Sizing
import LiqRanger.Morpho.Properties
import LiqRanger.Records.KeyedTable
import LiqRanger.Records.Liquidations
import LiqRanger.Records.Properties
import LiqRanger.Watchlist.List
import LiqRanger.Bootstrap.Adapter
import LiqRanger.Bootstrap.World
import LiqRanger.Bootstrap.Progress
import LiqRanger.Bootstrap.Properties
import LiqRanger.Bootstrap.Words
import LiqRanger.Transition.System
import LiqRanger.Updater.Step
import LiqRanger.Startup.Engine
import LiqRanger.Startup.Properties
import LiqRanger.Updater.Properties
import LiqRanger.Watchlist.Durable
import LiqRanger.Watchlist.Shared
import LiqRanger.Updater.Work
import LiqRanger.Updater.Prune
import LiqRanger.Updater.Deliveries
import LiqRanger.Effect.Pool
import LiqRanger.Effect.Responder
import LiqRanger.Aave.Math
import LiqRanger.Aave.Adapter
import LiqRanger.Readers.Scan
import LiqRanger.Readers.Findings
import LiqRanger.Readers.Refresh
import LiqRanger.Scanner.Engine
import LiqRanger.Scanner.Properties
import LiqRanger.Scanner.Overlap
import LiqRanger.Simulation.Snapshot
import LiqRanger.Simulation.Properties
import LiqRanger.Startup.Identities
import LiqRanger.Aave.Estimate
import LiqRanger.Aave.Selection
import LiqRanger.Morpho.Panics
import LiqRanger.Pipeline.ProfitGuard
import LiqRanger.Uniswap.CacheKey
import LiqRanger.Uniswap.Adapter
import LiqRanger.Uniswap.Search
import LiqRanger.Uniswap.Trace
import LiqRanger.Uniswap.Properties
import LiqRanger.Morpho.Conversions
import LiqRanger.Uniswap.Path
import LiqRanger.Simulation.Revert
import LiqRanger.Watchlist.Pruner
import LiqRanger.Settlement.Engine
import LiqRanger.Settlement.Properties
import LiqRanger.Pipeline.Shutdown
import LiqRanger.Effect.Interpret
import LiqRanger.Simulation.Engine
import LiqRanger.Simulation.Reasons
import LiqRanger.Execution.Params
import LiqRanger.Execution.Contract
import LiqRanger.Execution.Simulator
import LiqRanger.Pipeline.Wired
import LiqRanger.Effect.Residual
import LiqRanger.Channel.Broadcast
import LiqRanger.Blocks.Feed
import LiqRanger.Pipeline.Intake
import LiqRanger.Effect.Memo
import LiqRanger.Records.Extractor
import LiqRanger.Records.History
import LiqRanger.Lookups.Tasks
import LiqRanger.Storage.Stores
import LiqRanger.Startup.Tracking
import LiqRanger.Startup.Whitelist
import LiqRanger.Pipeline.Swap
import LiqRanger.Pipeline.Reread
