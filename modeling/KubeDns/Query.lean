/-
# The query path

`Records(name, exact)` and `ReverseRecord(name)`, with everything they call:
`getRecordsForPath`, `isPodRecord`, `getPodIP`, `isFederationQuery`,
`recordsForFederation` (with `isHeadlessServiceRecord` and
`serviceWithClusterIPHasEndpoints`), `federationRecords` and `getClusterZoneAndRegion`.

Every slice index and slice expression goes through `index`, `sliceTo` and `sliceFrom`,
which panic out of range, and a read through the nil `kd.config` panics; so "never
panics" is a statement about these definitions and not about the model's types.
The cache is typed, so the assertion `record.(*skymsg.Service)` of `getRecordsForPath`
always holds; the node store is typed too.

`getClusterZoneAndRegion` is the one query step with an effect: on a cold node store it
lists the nodes through the API (`nodeList`, the API's answer) and adds the node it picks.
The functions on the federation path therefore return the node store with their result.
-/
import KubeDns.Handlers
import KubeDns.Net

namespace KubeDns

/-- The answer of the API's node list: the nodes, or the error's text. -/
abbrev NodeList := Except String (List Node)

/-- A record with only its `Host` set (`skymsg.Service{Host: name}`), as the federation
path returns them. -/
def hostRecord (name : String) : SkyService :=
  { host := name, port := 0, priority := 0, weight := 0, ttl := 0 }

/-- The selection test of `getClusterZoneAndRegion`: both label KEYS are present
(`_, zfound := ...`, `_, rfound := ...`); their values are not looked at. -/
def hasZoneAndRegionLabels (node : Node) : Bool :=
  (node.labels.lookup labelZoneFailureDomain).isSome && (node.labels.lookup labelZoneRegion).isSome

/-- `kd.getClusterZoneAndRegion()`: the zone and region of the cached node, or of the first
listed node carrying both labels, which is then cached.  Errors are the `fmt.Errorf` texts. -/
def getClusterZoneAndRegion (nodesStore : List Node) (nodeList : NodeList) :
    Except String (String × String) × List Node :=
  let selected : Except String (Option Node) × List Node :=
    match nodesStore with
    | node :: _ => (.ok (some node), nodesStore)
    | [] =>
      match nodeList with
      | .error err => (.error ("failed to retrieve the cluster nodes: " ++ err), nodesStore)
      | .ok [] => (.error "failed to retrieve the cluster nodes: <nil>", nodesStore)
      | .ok items =>
        match items.find? hasZoneAndRegionLabels with
        | some node => (.ok (some node), node :: nodesStore)
        | none => (.ok none, nodesStore)
  match selected with
  | (.error e, store) => (.error e, store)
  | (.ok none, store) => (.error "Could not find any nodes", store)
  | (.ok (some node), store) =>
    match node.labels.lookup labelZoneFailureDomain with
    | none | some "" => (.error "unknown cluster zone", store)
    | some zone =>
      match node.labels.lookup labelZoneRegion with
      | none | some "" => (.error "unknown cluster region", store)
      | some region => (.ok (zone, region), store)

namespace KubeDNS

/-! ## 1. Classifying a path -/

/-- `kd.isPodRecord(path)`. -/
def isPodRecord (kd : KubeDNS) (path : List String) : Go Bool :=
  if path.length ≠ kd.domainPath.length + 3 then pure false else do
  let sub ← index path kd.domainPath.length
  if sub ≠ podSubdomain then pure false
  else pure (path.all (· != "*"))

/-- `kd.getPodIP(path)`: the last label with dashes for dots, if `net.ParseIP` takes it. -/
def getPodIP (path : List String) : Go String := do
  let ipStr ← index path (path.length - 1 : Int)
  let ip := Strings.replaceAll ipStr '-' '.'
  match Net.parseIP ip with
  | some _ => pure ip
  | none => throw (.error (.message ("Invalid IP Address " ++ ip)))

/-- `kd.config.Federations`, read through the config pointer. -/
def federations (kd : KubeDNS) : Go (List (String × String)) :=
  match kd.config with
  | some config => pure config.federations
  | none => throw (.panic .nilPointerDereference)

/-- The loop of `isFederationQuery` over `kd.domainPath`: the `i`-th domain label against
`path[len(path)-i-1]`. -/
def domainLabelsMatch (path : List String) : Nat → List String → Go Bool
  | _, [] => pure true
  | i, domComp :: rest => do
    let segment ← index path ((path.length : Int) - i - 1)
    if domComp ≠ segment then pure false else domainLabelsMatch path (i + 1) rest

/-- `kd.isFederationQuery(path)`, on the labels in query order. -/
def isFederationQuery (kd : KubeDNS) (path : List String) : Go Bool :=
  if path.length ≠ 4 + kd.domainPath.length then pure false else do
  let svc ← index path 0
  if !isDNS1035Label svc then pure false else do
  let ns ← index path 1
  if !isDNS1123Label ns then pure false else do
  let fed ← index path 2
  if !isDNS1123Label fed then pure false else do
  let sub ← index path 3
  if sub ≠ serviceSubdomain then pure false else do
  if !(← domainLabelsMatch path 0 kd.domainPath) then pure false else do
  let federations ← kd.federations
  pure (federations.lookup fed).isSome

/-! ## 2. The local lookup -/

/-- `kd.getRecordsForPath(path, exact)`. -/
def getRecordsForPath (kd : KubeDNS) (path : List String) (exact : Bool) :
    Go (List SkyService) := do
  if ← kd.isPodRecord path then
    let ip ← getPodIP path
    pure [(getSkyMsg ip 0).1]
  else if exact then
    let key ← index path (path.length - 1 : Int)
    if key = "" then pure []
    else
      let parent ← sliceTo path (path.length - 1 : Int)
      match kd.cache.getEntry key parent with
      | some record => pure [record]
      | none => throw (.error .keyNotFound)
  else pure (kd.cache.getValuesForPathWithWildcards path)

/-! ## 3. Federation -/

/-- `kd.isHeadlessServiceRecord(msg)`: any Host that is not a cluster IP counts. -/
def isHeadlessServiceRecord (kd : KubeDNS) (msg : SkyService) : Bool :=
  (kd.clusterIPServiceMap msg.host).isNone

/-- `kd.serviceWithClusterIPHasEndpoints(msg)`. -/
def serviceWithClusterIPHasEndpoints (kd : KubeDNS) (msg : SkyService) :
    Except DnsError Bool :=
  match kd.clusterIPServiceMap msg.host with
  | none => .error (.message "method not expected to be called for headless service")
  | some svc =>
    match kd.endpointsStore svc.key with
    | some e => .ok (e.subsets.length > 0)
    | none => .ok false

/-- One turn of the loop of `recordsForFederation`: the record counts as a local service
with endpoints (an error or `false` is a `continue`). -/
def isValidLocalRecord (kd : KubeDNS) (val : SkyService) : Bool :=
  kd.isHeadlessServiceRecord val ||
    match kd.serviceWithClusterIPHasEndpoints val with
    | .ok ok => ok
    | .error _ => false

/-- `kd.federationRecords(queryPath)`: the CNAME `s.ns.fed.svc.zone.region.<fed domain>.`. -/
def federationRecords (kd : KubeDNS) (nodeList : NodeList) (queryPath : List String) :
    Go (List SkyService) × List Node :=
  let path := reverseArray queryPath
  match kd.isFederationQuery path with
  | .error e => (.error e, kd.nodesStore)
  | .ok false => (.error (.error .keyNotFound), kd.nodesStore)
  | .ok true =>
    match sliceTo path ((path.length : Int) - kd.domainPath.length) with
    | .error e => (.error e, kd.nodesStore)
    | .ok path =>
      match getClusterZoneAndRegion kd.nodesStore nodeList with
      | (.error err, nodes) =>
        (.error (.error (.message ("failed to obtain the cluster zone and region: " ++ err))),
          nodes)
      | (.ok (zone, region), nodes) =>
        let path := path ++ [zone, region]
        (do
          let fed ← index path 2
          let federations ← kd.federations
          let domain := (federations.lookup fed).getD ""
          if !isDNS1123Subdomain domain then
            throw (.error (.message
              (domain ++ " is not a valid domain name for federation " ++ fed)))
          else
            let name := Strings.join (path ++ [domain]) '.'
            let name := if Strings.hasSuffix name "." then name else name ++ "."
            pure [hostRecord name], nodes)

/-- `kd.recordsForFederation(records, path, exact, federationSegments)`. -/
def recordsForFederation (kd : KubeDNS) (nodeList : NodeList) (records : List SkyService)
    (path : List String) (exact : Bool) (federationSegments : List String) :
    Go (List SkyService) × List Node :=
  if records.any kd.isValidLocalRecord then
    let name := Strings.join (reverseArray path) '.'
    let name := if Strings.hasSuffix name "." then name else name ++ "."
    (.ok [hostRecord name], kd.nodesStore)
  else if !exact then kd.federationRecords nodeList (reverseArray federationSegments)
  else (.error (.error .keyNotFound), kd.nodesStore)

/-! ## 4. `Records` and `ReverseRecord` -/

/-- The part of `Records` before the federation fallback: the federation test and the
label removal, the path, and the local records. -/
def localLookup (kd : KubeDNS) (segments : List String) (exact : Bool) :
    Go (Option (List String) × List String × List SkyService) := do
  let federation ← if exact then pure false else kd.isFederationQuery segments
  let (federationSegments, segments) ← if federation then do
      let head ← sliceTo segments 2
      let tail ← sliceFrom segments 3
      pure (some segments, head ++ tail)
    else pure (none, segments)
  let path := reverseArray segments
  let records ← kd.getRecordsForPath path exact
  pure (federationSegments, path, records)

/-- `kd.Records(name, exact)`, with the node store it leaves. -/
def records (kd : KubeDNS) (nodeList : NodeList) (name : String) (exact : Bool) :
    Go (List SkyService) × List Node :=
  match kd.localLookup (Strings.split (Strings.trimRight name '.') '.') exact with
  | .error e => (.error e, kd.nodesStore)
  | .ok (some federationSegments, path, records) =>
    kd.recordsForFederation nodeList records path exact federationSegments
  | .ok (none, _, records) =>
    (if records = [] then .error (.error .keyNotFound) else .ok records, kd.nodesStore)

/-- `kd.ReverseRecord(name)`. -/
def reverseRecord (kd : KubeDNS) (name : String) : Go SkyService :=
  let (portalIP, ok) := extractIP name
  if !ok then throw (.error (.message ("does not support reverse lookup for " ++ name)))
  else
    match kd.reverseRecordMap portalIP with
    | some reverseRecord => pure reverseRecord
    | none => throw (.error (.message "must be exactly one service record"))

end KubeDNS

end KubeDns
