/-
# The engine's state and its record builders

`KubeDNS` (`dns.go`) with the fields the record paths read and write: the cluster domain,
the two informer stores, the node cache, the record cache, `reverseRecordMap` and
`clusterIPServiceMap`, the dynamic configuration, and the SkyDNS server configuration
that a configuration push rewrites.  The stores and the two IP maps are
finite maps, written as functions.

The three builders of `dns.go` come next, each as the loops it runs:

* `newPortalService`: an A record per cluster IP, keyed by the record's hash label, and
  an SRV record per named port under `["_proto", "_name"]` with the same key; then, under
  the lock, the subtree swap and a reverse record and a service entry per cluster IP;
* `generateRecordsForHeadlessService`: per endpoint address an A record keyed by its
  hostname (or its hash label), its SRV records, and a reverse record when it has a
  hostname, the last address of an IP winning;
* `newExternalNameService`: one CNAME leaf keyed by the service name under
  `[domainPath..., "svc", ns]`.

Each builder computes its subtree outside the lock (`portalSubCache`, `headlessRecords`)
and installs it in one step; `headlessRecords_snd` (in `Writes`) says which reverse
records the address loop stages.
-/
import KubeDns.TreeCache
import KubeDns.Util

namespace KubeDns

/-- `serviceSubdomain`. -/
def serviceSubdomain : String := "svc"

/-- `podSubdomain`. -/
def podSubdomain : String := "pod"

/-- `KubeDNS`: the fields the record and query paths and the configuration push use;
`skyDNSConfig` is the `SkyDNSConfig` pointer, set by the caller once `NewKubeDNS` returned. -/
structure KubeDNS where
  domain : String
  endpointsStore : ObjectKey → Option Endpoints
  servicesStore : ObjectKey → Option Service
  nodesStore : List Node
  cache : TreeCache
  reverseRecordMap : String → Option SkyService
  clusterIPServiceMap : String → Option Service
  config : Option Config
  skyDNSConfig : Option ServerConfig

namespace KubeDNS

/-! ## 1. Construction and names -/

/-- `kd.domainPath`, set by `NewKubeDNS`: the dot-trimmed domain's labels, reversed. -/
def domainPath (kd : KubeDNS) : List String :=
  reverseArray (Strings.split (Strings.trimRight kd.domain '.') '.')

/-- `NewKubeDNS(client, clusterDomain, ...)`: empty stores, cache and maps; the
configuration is set later, by `Start`. -/
def newKubeDNS (clusterDomain : String) : KubeDNS where
  domain := clusterDomain
  endpointsStore := fun _ => none
  servicesStore := fun _ => none
  nodesStore := []
  cache := TreeCache.newTreeCache
  reverseRecordMap := fun _ => none
  clusterIPServiceMap := fun _ => none
  config := none
  skyDNSConfig := none

/-- `kd.fqdn(service, subpaths...)`: the name of a record under the service's node. -/
def fqdn (kd : KubeDNS) (service : Service) (subpaths : List String) : String :=
  Dns.fqdn (Strings.join (reverseArray
    (kd.domainPath ++ [serviceSubdomain, service.namespace, service.name] ++ subpaths)) '.')

/-- The node under which a namespace's services hang: `[domainPath..., "svc", ns]`. -/
def namespacePath (kd : KubeDNS) (ns : String) : List String :=
  kd.domainPath ++ [serviceSubdomain, ns]

/-- `kd.generateSRVRecordValue(svc, portNumber, labels...)`. -/
def generateSRVRecordValue (kd : KubeDNS) (svc : Service) (portNumber : Int)
    (labels : List String) : SkyService :=
  let host := labels.foldl (fun host cNameLabel => cNameLabel ++ "." ++ host)
    (Strings.join [svc.name, svc.namespace, serviceSubdomain, kd.domain] '.')
  (getSkyMsg host portNumber).1

end KubeDNS

/-- `getServiceFQDN(domain, service)`. -/
def getServiceFQDN (domain : String) (service : Service) : String :=
  Strings.join [service.name, service.namespace, serviceSubdomain, domain] '.'

/-- `getHostname(address)`. -/
def getHostname (address : EndpointAddress) : Option String :=
  if address.hostname.length > 0 then some address.hostname else none

/-- The SRV node of a port: `[]string{"_" + strings.ToLower(protocol), "_" + name}`. -/
def srvLabels (protocol name : String) : List String :=
  ["_" ++ Strings.toLower protocol, "_" ++ name]

namespace KubeDNS

/-! ## 2. `newPortalService` -/

/-- The inner loop of `newPortalService`: the SRV record of one port, for the cluster IP
whose A record is keyed `recordLabel`. -/
def portalPortRecords (kd : KubeDNS) (service : Service) (recordLabel : String)
    (subCache : TreeCache) (port : ServicePort) : TreeCache :=
  if port.name = "" ∨ port.protocol = "" then subCache
  else
    let srvValue := kd.generateSRVRecordValue service port.port []
    let l := srvLabels port.protocol port.name
    subCache.setEntry recordLabel srvValue (kd.fqdn service (l ++ [recordLabel])) l

/-- The outer loop body of `newPortalService`: the records of one cluster IP. -/
def portalIPRecords (kd : KubeDNS) (service : Service) (subCache : TreeCache) (ip : String) :
    TreeCache :=
  let recordLabel := (getSkyMsg ip 0).2
  let subCache := subCache.setEntry recordLabel (getSkyMsg ip 0).1 (kd.fqdn service [recordLabel]) []
  service.ports.foldl (kd.portalPortRecords service recordLabel) subCache

/-- The subtree `newPortalService` builds before it takes the lock. -/
def portalSubCache (kd : KubeDNS) (service : Service) : TreeCache :=
  (getClusterIPs service).foldl (kd.portalIPRecords service) TreeCache.newTreeCache

/-- `kd.newPortalService(service)`. -/
def newPortalService (kd : KubeDNS) (service : Service) : KubeDNS :=
  let clusterIPs := getClusterIPs service
  let reverseRecord := (getSkyMsg (getServiceFQDN kd.domain service) 0).1
  { kd with
    cache := kd.cache.setSubCache service.name (kd.portalSubCache service)
      (kd.namespacePath service.namespace)
    reverseRecordMap := fun ip =>
      if ip ∈ clusterIPs then some reverseRecord else kd.reverseRecordMap ip
    clusterIPServiceMap := fun ip =>
      if ip ∈ clusterIPs then some service else kd.clusterIPServiceMap ip }

/-! ## 3. `generateRecordsForHeadlessService` -/

/-- The subtree and the `generatedRecords` map the address loop builds. -/
abbrev HeadlessAcc := TreeCache × (String → Option SkyService)

/-- The port loop for one endpoint address named `endpointName`. -/
def headlessPortRecords (kd : KubeDNS) (svc : Service) (endpointName : String)
    (subCache : TreeCache) (endpointPort : EndpointPort) : TreeCache :=
  if endpointPort.name ≠ "" ∧ endpointPort.protocol ≠ "" then
    let srvValue := kd.generateSRVRecordValue svc endpointPort.port [endpointName]
    let l := srvLabels endpointPort.protocol endpointPort.name
    subCache.setEntry endpointName srvValue (kd.fqdn svc (l ++ [endpointName])) l
  else subCache

/-- The name of an endpoint address: its hostname, else the hash label of its A record. -/
def endpointName (address : EndpointAddress) : String :=
  (getHostname address).getD (getSkyMsg address.ip 0).2

/-- The address loop body of `generateRecordsForHeadlessService`. -/
def headlessAddressRecords (kd : KubeDNS) (svc : Service) (ports : List EndpointPort)
    (acc : HeadlessAcc) (address : EndpointAddress) : HeadlessAcc :=
  let name := endpointName address
  let subCache := acc.1.setEntry name (getSkyMsg address.ip 0).1 (kd.fqdn svc [name]) []
  let subCache := ports.foldl (kd.headlessPortRecords svc name) subCache
  match getHostname address with
  | some _ =>
    (subCache, fun ip =>
      if ip = address.ip then some (getSkyMsg (kd.fqdn svc [name]) 0).1 else acc.2 ip)
  | none => (subCache, acc.2)

/-- The records `generateRecordsForHeadlessService` builds before it takes the lock. -/
def headlessRecords (kd : KubeDNS) (e : Endpoints) (svc : Service) : HeadlessAcc :=
  e.subsets.foldl
    (fun acc subset => subset.addresses.foldl (kd.headlessAddressRecords svc subset.ports) acc)
    (TreeCache.newTreeCache, fun _ => none)

/-- `kd.generateRecordsForHeadlessService(e, svc)`: the staged reverse records are written
(to distinct IPs, so in any order), then the subtree swapped in. -/
def generateRecordsForHeadlessService (kd : KubeDNS) (e : Endpoints) (svc : Service) :
    KubeDNS :=
  let records := kd.headlessRecords e svc
  { kd with
    reverseRecordMap := fun ip => (records.2 ip).or (kd.reverseRecordMap ip)
    cache := kd.cache.setSubCache svc.name records.1 (kd.namespacePath svc.namespace) }

/-- `kd.newHeadlessService(service)`: records only once the endpoints are stored. -/
def newHeadlessService (kd : KubeDNS) (service : Service) : KubeDNS :=
  match kd.endpointsStore service.key with
  | some e => kd.generateRecordsForHeadlessService e service
  | none => kd

/-! ## 4. `newExternalNameService` -/

/-- `kd.newExternalNameService(service)`: the CNAME, keyed by the service name. -/
def newExternalNameService (kd : KubeDNS) (service : Service) : KubeDNS :=
  { kd with
    cache := kd.cache.setEntry service.name (getSkyMsg service.externalName 0).1
      (kd.fqdn service []) (kd.namespacePath service.namespace) }

end KubeDNS

end KubeDns
