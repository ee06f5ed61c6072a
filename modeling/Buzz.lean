import Buzz.Relay.ConcurrentFanOut
import Buzz.Relay.Revocation
import Buzz.Git.Announce
import Buzz.Git.Protection
import Buzz.Git.ForkFree
import Buzz.Git.Packs
import Buzz.Git.FinalizePush
import Buzz.Acp.DeadLetter
import Buzz.Acp.Dispatch
import Buzz.Pairing.Agreement
import Buzz.Ifc.Flow
import Buzz.Audit.Chain
import Buzz.Mesh.Dial
import Buzz.Git.Limits
import Buzz.Workflow.Coverage
import Buzz.Workflow.Spacing
import Buzz.Workflow.NonInterference
import Buzz.Tunnel.Fence
import Buzz.Audio.Copies
import Buzz.Audio.Isolation
import Buzz.Relay.CountLeak
import Buzz.Db.Governance
import Buzz.Acp.Backpressure
import Buzz.Db.ThreadRuns
import Buzz.Agent.Loop
import Buzz.Gateway.Quota
import Buzz.Kube.Adoption
import Buzz.Kube.Ownership
import Buzz.Relay.WakeCoverage
import Buzz.Relay.CommandOrder
import Buzz.Db.DeletionFence
import Buzz.Relay.LiveBan
import Buzz.Relay.LiveFrame
import Buzz.Relay.RegistryReads
import Buzz.Git.Advertisement
import Buzz.Audio.Takeover
import Buzz.Workflow.Template
import Buzz.Git.ContentAddress
import Buzz.Acp.Recovery
import Buzz.DevMcp.Glob
import Buzz.DevMcp.Scan
