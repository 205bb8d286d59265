import OpenTTT.Foundations.Binary32
import OpenTTT.Foundations.Binary64
import OpenTTT.Foundations.BinaryHeap
import OpenTTT.Foundations.ClockReading
import OpenTTT.Foundations.DecimalText
import OpenTTT.Foundations.ExpiringCache
import OpenTTT.Foundations.FifoMap
import OpenTTT.Foundations.GroupedAggregate
import OpenTTT.Foundations.Hysteresis
import OpenTTT.Foundations.InsertionMap
import OpenTTT.Foundations.Json
import OpenTTT.Foundations.JsonNumber
import OpenTTT.Foundations.MaxHeap
import OpenTTT.Foundations.Mealy
import OpenTTT.Foundations.Merkle
import OpenTTT.Foundations.OrderStatistic
import OpenTTT.Foundations.Panicking
import OpenTTT.Foundations.Reentrancy
import OpenTTT.Foundations.ReplayCache
import OpenTTT.Foundations.ReplayTrace
import OpenTTT.Foundations.SelfDelimiting
import OpenTTT.Foundations.Slices
import OpenTTT.Foundations.Throwing
import OpenTTT.Foundations.Transactions
import OpenTTT.Foundations.Unicode
import OpenTTT.Runtime.Buffer
import OpenTTT.Runtime.Errors
import OpenTTT.Runtime.Json
import OpenTTT.Runtime.NumberText
import OpenTTT.Runtime.Words
import OpenTTT.Switch.MatchRate
import OpenTTT.Switch.TypeScript
import OpenTTT.Switch.Rust
import OpenTTT.Switch.Turbo
import OpenTTT.Switch.Persistence
import OpenTTT.Switch.Refinement
import OpenTTT.Switch.Future
import OpenTTT.Switch.Store
import OpenTTT.Switch.Isolation
import OpenTTT.Time.Types
import OpenTTT.Time.Synthesis
import OpenTTT.Time.HttpClient
import OpenTTT.Time.Ntp
import OpenTTT.Time.Https
import OpenTTT.Time.Json
import OpenTTT.Time.Replay
import OpenTTT.Time.Generation
import OpenTTT.Time.Median
import OpenTTT.Time.Agreement
import OpenTTT.Time.SelfVerification
import OpenTTT.Time.HttpProofs
import OpenTTT.Time.CanonicalMessage
import OpenTTT.Roughtime.Chain
import OpenTTT.Roughtime.ChainVerifier
import OpenTTT.Roughtime.Overflow
import OpenTTT.Roughtime.Pipeline
import OpenTTT.Roughtime.Messages
import OpenTTT.Roughtime.RoundTrip
import OpenTTT.Roughtime.Wire
import OpenTTT.Roughtime.WireSafety
import OpenTTT.Roughtime.Validate
import OpenTTT.Roughtime.Malformed
import OpenTTT.Roughtime.Authenticity
import OpenTTT.Roughtime.Completeness
import OpenTTT.Roughtime.Client
import OpenTTT.Roughtime.Window
import OpenTTT.Roughtime.Collect
import OpenTTT.Roughtime.Reading
import OpenTTT.Time.SourceOrder
import OpenTTT.Plugin.PotToken
import OpenTTT.Time.PotSigner
import OpenTTT.Time.Sources
import OpenTTT.Roughtime.FiloQueue
import OpenTTT.Roughtime.NoStdVerify
import OpenTTT.Roughtime.QuicBinding
import OpenTTT.Roughtime.Commitment
import OpenTTT.Time.BinaryVerdict
import OpenTTT.Time.Judging
import OpenTTT.Time.DateReaders
import OpenTTT.Pot.Frame
import OpenTTT.Pot.Payload
import OpenTTT.Pot.Verifier
import OpenTTT.Pot.Structure
import OpenTTT.Contracts.ProtocolFee
import OpenTTT.Contracts.Solidity
import OpenTTT.Contracts.HookSimple
import OpenTTT.Contracts.ERC20
import OpenTTT.Contracts.TTTToken
import OpenTTT.Subgraph.Mapping
import OpenTTT.Pools.Registry
import OpenTTT.Pools.Restart
import OpenTTT.Contracts.TTT
import OpenTTT.Pools.TokenId
import OpenTTT.Pools.Spelling
import OpenTTT.Pools.Retention
import OpenTTT.Time.Payment
import OpenTTT.Chain.EvmConnector
import OpenTTT.Chain.V4Hook
import OpenTTT.Chain.Der
import OpenTTT.Chain.KmsSigner
import OpenTTT.Contracts.Hook
import OpenTTT.Time.Rejection
import OpenTTT.Pot.Atomicity
import OpenTTT.Foundations.SortByKey
import OpenTTT.Foundations.ExpiringFifo
import OpenTTT.Plugin.PotCache
import OpenTTT.Plugin.CacheRuns
import OpenTTT.Foundations.Requests
import OpenTTT.Time.SocketRuns
import OpenTTT.Chain.Subscriptions
import OpenTTT.Contracts.SwapFees
import OpenTTT.Roughtime.QuicFrames
import OpenTTT.Pot.ExtendedFrames
import OpenTTT.Foundations.Binary64Integers
import OpenTTT.Plugin.TimeConsensus
import OpenTTT.Time.OnChainHash
import OpenTTT.Mcp.Tools
import OpenTTT.Mcp.ToolRuns
import OpenTTT.Time.KeyFiles
import OpenTTT.Roughtime.Osnma
import OpenTTT.Contracts.OpenZeppelin
import OpenTTT.Contracts.ERC1155
import OpenTTT.Contracts.TTTRuns
import OpenTTT.Contracts.AbiCoder
