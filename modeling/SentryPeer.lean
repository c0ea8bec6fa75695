import SentryPeer.Source.SipLog
import SentryPeer.Proof.SipLog
import SentryPeer.Source.Conf
import SentryPeer.Proof.Conf
import SentryPeer.Lib.Json
import SentryPeer.Source.JsonLogger
import SentryPeer.Proof.JsonLogger
import SentryPeer.Proof.Webhook
import SentryPeer.Proof.WebhookRefinement
import SentryPeer.Proof.WebhookRetry
import SentryPeer.Source.SipDaemon
import SentryPeer.Proof.Receive
import SentryPeer.Proof.SipDaemon
import SentryPeer.Source.Database
import SentryPeer.Source.Dht
import SentryPeer.Proof.Replication
import SentryPeer.Proof.Locking
import SentryPeer.Lib.Inet
import SentryPeer.Source.Http
import SentryPeer.Source.Collect
import SentryPeer.Proof.Collect
import SentryPeer.Source.Stores
import SentryPeer.Proof.JsonLog
import SentryPeer.Proof.DhtValue
import SentryPeer.Proof.EventUuid
import SentryPeer.Proof.Decoders
import SentryPeer.Proof.BadActorLog
import SentryPeer.Lib.Grouping
import SentryPeer.Proof.Listing
import SentryPeer.Proof.Returned
import SentryPeer.Proof.Numbers
import SentryPeer.Proof.Monotone
import SentryPeer.Lib.Calendar
import SentryPeer.Lib.TextOrder
import SentryPeer.Proof.Timestamp
import SentryPeer.Source.Lifecycle
import SentryPeer.Proof.Lifecycle
import SentryPeer.Proof.Routes
import SentryPeer.Proof.Blocking
import SentryPeer.Proof.Delivery
import SentryPeer.Proof.BearerToken
import SentryPeer.Proof.ConfValues
import SentryPeer.Proof.Redelivery
import SentryPeer.Proof.Connection
import SentryPeer.Proof.Descriptors
import SentryPeer.Proof.Credentials
import SentryPeer.Lib.Utf8
import SentryPeer.Source.Listeners
import SentryPeer.Proof.Listeners
import SentryPeer.Lib.Pattern
import SentryPeer.Source.RegexMatch
import SentryPeer.Proof.RegexMatch
import SentryPeer.Source.LogFile
import SentryPeer.Proof.LogFile
import SentryPeer.Source.BadActors
import SentryPeer.Proof.BadActors
import SentryPeer.Source.FdSets
import SentryPeer.Proof.FdSets
import SentryPeer.Lib.Memory
import SentryPeer.Source.ConfBuffers
import SentryPeer.Proof.ConfBuffers
import SentryPeer.Proof.Headers
import SentryPeer.Lib.Ownership
import SentryPeer.Source.OnHeap
import SentryPeer.Proof.OnHeap
import SentryPeer.Proof.Ownership
import SentryPeer.Source.NodeHeap
import SentryPeer.Proof.NodeHeap
import SentryPeer.Source.DaemonHeap
import SentryPeer.Proof.DaemonHeap
import SentryPeer.Proof.Convergence
import SentryPeer.Source.SipServer
import SentryPeer.Proof.SipServer
import SentryPeer.Lib.Represents
import SentryPeer.Proof.WebhookHeap
