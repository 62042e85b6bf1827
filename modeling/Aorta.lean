import Aorta.Library.Search
import Aorta.Library.Resume
import Aorta.Library.Ascii
import Aorta.Http.HttpParser
import Aorta.Http.HttpReader
import Aorta.Net.Connection
import Aorta.Net.Output
import Aorta.Net.Fragmentation
import Aorta.Http.HttpWalk
import Aorta.Http.HttpMessage
import Aorta.Http.HttpChecks
import Aorta.Http.HttpGrammar
import Aorta.Net.Pipelining
import Aorta.Net.Framing
import Aorta.Net.FragmentLimits
import Aorta.Http.HttpRequest
import Aorta.Http.HttpResponse
import Aorta.Library.Run
import Aorta.Server.Reactor
import Aorta.Server.Reads
import Aorta.Server.Delivery
import Aorta.Server.Stranded
import Aorta.Server.Wakeups
import Aorta.Server.HalfClose
import Aorta.Redis.RedisClient
import Aorta.Tasks.TaskManager
import Aorta.Tasks.TaskStore
import Aorta.Redis.MemoryServer
import Aorta.Lb.BackendPool
import Aorta.Lb.ConsistentHash
import Aorta.Lb.HealthChecker
import Aorta.Lb.LbMetrics
import Aorta.Lb.LoadBalancer
import Aorta.Library.FiniteMap
import Aorta.Lb.Accounting
import Aorta.Lb.EventMoves
import Aorta.Lb.PairTables
import Aorta.Lb.PairRules
import Aorta.Library.Trace
import Aorta.Lb.RelayExactness
import Aorta.Lb.CleanClose
import Aorta.Lb.SingleBackend
import Aorta.Lb.RelayMemory
import Aorta.Lb.Interest
import Aorta.Lb.FailoverChain
import Aorta.Library.Custody
import Aorta.Worker.WorkerPool
import Aorta.Worker.Completions
import Aorta.Http.StaticFileHandler
import Aorta.Http.HttpHandler
import Aorta.Http.PublicDirectory
import Aorta.Http.HeadAnswers
import Aorta.Server.HeadResponses
import Aorta.Lb.BackendConfig
import Aorta.Lb.Selection
import Aorta.Lb.HealthRounds
import Aorta.Server.Splitting
import Aorta.Server.Watching
import Aorta.Server.PausedReading
import Aorta.Server.Gauge
import Aorta.Server.ClosingRequests
import Aorta.Server.Counters
import Aorta.Server.ReceiveRoom
import Aorta.Lb.ClientProgress
import Aorta.Lb.StaleEvents
import Aorta.Server.StaleEvents
import Aorta.Lb.RingSearch
import Aorta.Lb.RoundRobin
import Aorta.Lb.FirstConnect
import Aorta.Http.TaskListing
import Aorta.Http.JsonBodies
import Aorta.Http.FormBodies
import Aorta.Http.StorageFailures
import Aorta.Tasks.CallOrder
import Aorta.Tasks.MemberListing
import Aorta.Http.ResponseFraming
import Aorta.Net.QueueAccounting
import Aorta.Library.BoundedNumeral
import Aorta.Http.BoundedNumbers
import Aorta.Server.FileAnswers
import Aorta.Library.Histogram
import Aorta.Server.LatencyMetrics
import Aorta.Server.Percentiles
import Aorta.Net.ParserBounds
import Aorta.Lb.HealthVerdicts
import Aorta.Lb.Admission
import Aorta.Library.Progress
import Aorta.Worker.WorkerThreads
import Aorta.Worker.ThreadMoves
import Aorta.Worker.Sleepers
import Aorta.Worker.Shutdown
import Aorta.Worker.Starvation
import Aorta.Library.Linearization
import Aorta.Server.RequestStream
import Aorta.Server.TaskService
import Aorta.Server.TaskOrder
import Aorta.Server.Deadlines
import Aorta.Server.ResponseStream
import Aorta.Server.Conversations
import Aorta.Library.Decoding
import Aorta.Http.ResponseReader
import Aorta.Http.ReadAnswers
import Aorta.Server.ReadResponses
import Aorta.Lb.ProxiedConversations
import Aorta.Server.TaskClients
import Aorta.Lb.ProbedServers
import Aorta.Lb.CheckDeadlines
