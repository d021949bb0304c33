import ShardedKvStore.Cluster.Durability
import ShardedKvStore.Cluster.Refinement
import ShardedKvStore.Cluster.Routing
import ShardedKvStore.Gateway.BreakerHistories
import ShardedKvStore.Gateway.Breakers
import ShardedKvStore.Gateway.RateLimits
import ShardedKvStore.Gateway.ReadBack
import ShardedKvStore.Http.Requests
import ShardedKvStore.Paths
import ShardedKvStore.Raft.Restarts
import ShardedKvStore.Raft.Snapshots
import ShardedKvStore.Server.Attempts
import ShardedKvStore.Server.Counters
import ShardedKvStore.Server.Linearizability
import ShardedKvStore.Server.Load
import ShardedKvStore.Server.Mediation
import ShardedKvStore.Shard.Availability
import ShardedKvStore.Shard.Candidates
import ShardedKvStore.Shard.CleanRuns
import ShardedKvStore.Shard.Counting
import ShardedKvStore.Shard.Isolation
import ShardedKvStore.Shard.Leadership
import ShardedKvStore.Shard.Recovery
import ShardedKvStore.Shard.Rejections
import ShardedKvStore.Shard.Synchronization
import ShardedKvStore.Configuration
import ShardedKvStore.Foundation.Documents
import ShardedKvStore.Foundation.Messages
import ShardedKvStore.Http.Heads
import ShardedKvStore.Http.Streams
import ShardedKvStore.MetricsPage
import ShardedKvStore.Server.Availability
import ShardedKvStore.Server.Bodies
import ShardedKvStore.Server.Keys
import ShardedKvStore.Server.Observations
import ShardedKvStore.Server.Responses
