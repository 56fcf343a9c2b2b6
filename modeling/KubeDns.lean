import KubeDns.Go
import KubeDns.Api
import KubeDns.Net
import KubeDns.TreeCache
import KubeDns.Util
import KubeDns.State
import KubeDns.Handlers
import KubeDns.Query
import KubeDns.Events
import KubeDns.Writes
import KubeDns.ReverseIndex
import KubeDns.Slots
import KubeDns.CacheProjection
import KubeDns.Federation
import KubeDns.Safety
import KubeDns.Atomicity
import KubeDns.Names
import KubeDns.NetText
import KubeDns.HostPort
import KubeDns.Upstream
import KubeDns.Lookups
import KubeDns.ServiceIndex
import KubeDns.Answers
import KubeDns.Startup
import KubeDns.Server
import KubeDns.Contract
import KubeDns.FederationRuns
import KubeDns.EndpointsRuns
import KubeDns.Interleaving
