/-
# The informer callbacks

The six handlers `setServicesStore` and `setEndpointsStore` register: `newService`,
`updateService` and `removeService` for services, `handleEndpointAdd`,
`handleEndpointUpdate` and `handleEndpointDelete` for endpoints.  A type assertion that
fails logs and returns; the model's handlers are typed, so that branch is absent.  The
errors of `newHeadlessService` and `addDNSUsingEndpoints` are only logged, so the handlers
return the state alone.

`handleEndpointUpdate` runs two lock sections: `removeOldPTRRecords` (the reverse entries
of old hostnamed IPs that no new address names) and then `handleEndpointAdd`.  The
ExternalName flip of `updateService` also runs two: `removeService`, then `newService`.
-/
import KubeDns.State

namespace KubeDns

namespace KubeDNS

/-! ## 1. Services -/

/-- `kd.newService(obj)`. -/
def newService (kd : KubeDNS) (service : Service) : KubeDNS :=
  if service.type = .externalName then kd.newExternalNameService service
  else if !isServiceIPSet service then kd.newHeadlessService service
  else kd.newPortalService service

/-- `kd.removeService(obj)`: the subtree (or the CNAME) goes, and with a cluster IP set,
that IP's reverse record and service entry. -/
def removeService (kd : KubeDNS) (s : Service) : KubeDNS :=
  let kd := { kd with
    cache := (kd.cache.deletePath (kd.domainPath ++ [serviceSubdomain, s.namespace, s.name])).1 }
  if isServiceIPSet s then
    { kd with
      reverseRecordMap := fun ip => if ip ∈ getClusterIPs s then none else kd.reverseRecordMap ip
      clusterIPServiceMap := fun ip =>
        if ip ∈ getClusterIPs s then none else kd.clusterIPServiceMap ip }
  else kd

/-- `kd.updateService(oldObj, newObj)`: the old records are removed first only when the
service becomes or stops being an ExternalName. -/
def updateService (kd : KubeDNS) (old new : Service) : KubeDNS :=
  if (new.type == .externalName) != (old.type == .externalName) then
    (kd.removeService old).newService new
  else kd.newService new

/-! ## 2. Endpoints -/

/-- `kd.getServiceFromEndpoints(e)`: the service stored under the endpoints' key. -/
def getServiceFromEndpoints (kd : KubeDNS) (e : Endpoints) : Option Service :=
  kd.servicesStore e.key

/-- `kd.addDNSUsingEndpoints(e)`: records only for a headless, non-ExternalName service. -/
def addDNSUsingEndpoints (kd : KubeDNS) (e : Endpoints) : KubeDNS :=
  match kd.getServiceFromEndpoints e with
  | some svc =>
    if isServiceIPSet svc || svc.type == .externalName then kd
    else kd.generateRecordsForHeadlessService e svc
  | none => kd

/-- `kd.handleEndpointAdd(obj)`. -/
def handleEndpointAdd (kd : KubeDNS) (e : Endpoints) : KubeDNS :=
  kd.addDNSUsingEndpoints e

end KubeDNS

/-- Every address of an endpoints object, subset by subset. -/
def addresses (e : Endpoints) : List EndpointAddress :=
  e.subsets.flatMap EndpointSubset.addresses

/-- The IPs of the hostnamed addresses of an endpoints object. -/
def hostnamedIPs (e : Endpoints) : List String :=
  ((addresses e).filter fun a => (getHostname a).isSome).map EndpointAddress.ip

/-- The first loop of `handleEndpointUpdate`: `oldAddressMap[ip] = true` for every old
address with a hostname. -/
def oldHostnamedIPs (oldEndpoints : Endpoints) : String → Bool :=
  oldEndpoints.subsets.foldl (fun m subset => subset.addresses.foldl
    (fun m address => if (getHostname address).isSome then fun k => k == address.ip || m k
      else m) m) fun _ => false

/-- The second loop: an IP leaves `oldAddressMap` once a new address names it. -/
def oldAddressMap (oldEndpoints newEndpoints : Endpoints) : String → Bool :=
  newEndpoints.subsets.foldl (fun m subset => subset.addresses.foldl
    (fun m address => if m address.ip && (getHostname address).isSome
      then fun k => k != address.ip && m k else m) m) (oldHostnamedIPs oldEndpoints)

/-- The deleting loop of `handleEndpointDelete`: the reverse record of every hostnamed
address goes. -/
def deleteHostnamedPTRs (endpoints : Endpoints) (rev : String → Option SkyService) :
    String → Option SkyService :=
  endpoints.subsets.foldl (fun m subset => subset.addresses.foldl
    (fun m address => if (getHostname address).isSome
      then fun k => if k = address.ip then none else m k else m) m) rev

namespace KubeDNS

/-- The first lock section of `handleEndpointUpdate`: for a headless service, the reverse
records of the old hostnamed IPs that no new address names. -/
def removeOldPTRRecords (kd : KubeDNS) (oldEndpoints newEndpoints : Endpoints) : KubeDNS :=
  match kd.getServiceFromEndpoints oldEndpoints with
  | some svc =>
    if !isServiceIPSet svc then
      { kd with reverseRecordMap := fun ip =>
          if oldAddressMap oldEndpoints newEndpoints ip then none else kd.reverseRecordMap ip }
    else kd
  | none => kd

/-- `kd.handleEndpointUpdate(oldObj, newObj)`. -/
def handleEndpointUpdate (kd : KubeDNS) (oldEndpoints newEndpoints : Endpoints) : KubeDNS :=
  (kd.removeOldPTRRecords oldEndpoints newEndpoints).handleEndpointAdd newEndpoints

/-- `kd.handleEndpointDelete(obj)`: for a headless service, the reverse records of the
deleted hostnamed addresses go; the cache is left as it is. -/
def handleEndpointDelete (kd : KubeDNS) (endpoints : Endpoints) : KubeDNS :=
  match kd.getServiceFromEndpoints endpoints with
  | some svc =>
    if !isServiceIPSet svc then
      { kd with reverseRecordMap := deleteHostnamedPTRs endpoints kd.reverseRecordMap }
    else kd
  | none => kd

end KubeDNS

end KubeDns
