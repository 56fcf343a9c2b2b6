/-
# A run of the server: events and queries interleaved

The server answers queries while the informers deliver events, all on one `KubeDNS`.  A
`Request` is what the server does next, an event or a query with the API's node list, and
`serveAll` a run of them in any interleaving.  Of the query path's functions only
`getClusterZoneAndRegion` writes, and only to the node store: on a cold store it adds the
first listed node that carries both label keys.

* `getClusterZoneAndRegion_nodesStore`: a call leaves the store as it was, or fills a cold
  store with one node that carries both labels;
* `records_nodesStore`: `Records` leaves the node store as it was, or leaves the store
  `getClusterZoneAndRegion` returns;
* `nodesStore_write_once`: over any run, events and queries in any order, the node store
  stays as it was, or was empty and ends with one labelled node.  So a node once cached is
  never evaluated again: from a non-empty store every later run keeps it, whatever nodes
  the API lists and whatever their labels become.  A run here is a sequence: `serve` takes
  a query as one step, but `getClusterZoneAndRegion` lists the node store and adds to it
  without a lock, so two federation queries served at once on an empty store may each add
  a node;
* `serveAll_invariants`: queries disturb none of the handlers' invariants.  Along a run
  whose events are valid and leave no IP owned twice, every state is reachable, and its
  cache, reverse index and cluster IP index agree with its stores; so every result about
  reachable states holds between any two queries;
* `serviceAdd_endpointsAdd_comm`: the two informers may deliver a new service and its new
  Endpoints in either order; both orders reach the same state;
* `headless_deletes_order`: not so for the deletes of a headless service and its
  Endpoints.  With the service deleted first, the pods' PTR records stay in the reverse
  index, and `ReverseRecord` keeps answering them;
* `serveAll_events`: queries never change what the handlers see.  No handler reads the node
  store (`step_setNodes`), so a run reaches the state its events alone reach, but for the
  node store;
* `queries_do_not_interfere`: nor what other queries see, when they are asked with the same
  node list: the node a query caches is the one the list would give again.
-/
import KubeDns.Answers

namespace KubeDns

/-- What the server does next: the handler of an informer event, or a query the DNS front
end hands to `Records` or `ReverseRecord`, with the API's node list should it be needed. -/
inductive Request where
  | event (ev : Event)
  | query (nodeList : NodeList) (q : Query)

namespace KubeDNS

/-- The state after one request: a query writes the node store `Records` leaves, and
nothing else. -/
def serve (kd : KubeDNS) : Request → KubeDNS
  | .event ev => kd.step ev
  | .query nodeList (.records name exact) =>
    { kd with nodesStore := (kd.records nodeList name exact).2 }
  | .query _ (.reverse _) => kd

/-- A run of requests, in order. -/
def serveAll (kd : KubeDNS) (reqs : List Request) : KubeDNS :=
  reqs.foldl serve kd

/-! ## 1. One request -/

theorem step_nodesStore (kd : KubeDNS) (ev : Event) : (kd.step ev).nodesStore = kd.nodesStore :=
  (frame_handle _ ev).nodesStore.trans (by cases ev <;> rfl)

/-- `Records` leaves the node store as it was, or leaves the store
`getClusterZoneAndRegion` returns: the federation redirect is its one write. -/
theorem records_nodesStore (kd : KubeDNS) (nodeList : NodeList) (name : String) (exact : Bool) :
    (kd.records nodeList name exact).2 = kd.nodesStore ∨
      (kd.records nodeList name exact).2 = (getClusterZoneAndRegion kd.nodesStore nodeList).2 := by
  unfold records
  split
  · exact .inl rfl
  · unfold recordsForFederation
    split_ifs
    · exact .inl rfl
    · unfold federationRecords
      dsimp only
      split
      · exact .inl rfl
      · exact .inl rfl
      · split
        · exact .inl rfl
        · split <;> next hz => exact .inr (by rw [hz])
    · exact .inl rfl
  · exact .inl rfl

/-- A second call with the same node list answers as the first, from the store the first
left: a cached node is the one the list would give again. -/
theorem getClusterZoneAndRegion_twice (store : List Node) (nodeList : NodeList) :
    getClusterZoneAndRegion (getClusterZoneAndRegion store nodeList).2 nodeList =
      getClusterZoneAndRegion store nodeList := by
  cases store with
  | cons node rest => rw [getClusterZoneAndRegion_cons, getClusterZoneAndRegion_cons]
  | nil =>
    cases nodeList with
    | error => rfl
    | ok items =>
      cases items with
      | nil => rfl
      | cons i is =>
        cases h : (i :: is).find? hasZoneAndRegionLabels with
        | none => simp only [getClusterZoneAndRegion, h]
        | some n =>
          rw [getClusterZoneAndRegion_nil_store, h, Option.toList, getClusterZoneAndRegion_cons]
          unfold getClusterZoneAndRegion
          simp only [h]
          split <;> (try split) <;> rfl

end KubeDNS

/-! ## 3. Every state of a run -/

/-- What a request needs of the state it meets: an event valid there that leaves no IP
owned by two keys; a query needs nothing. -/
def Request.Valid (kd : KubeDNS) : Request → Prop
  | .event ev => ev.Valid kd ∧ DisjointIPs (kd.step ev)
  | .query _ _ => True

/-- A run whose every request is valid in the state it reaches. -/
def ValidRun : KubeDNS → List Request → Prop
  | _, [] => True
  | kd, req :: reqs => req.Valid kd ∧ ValidRun (kd.serve req) reqs

/-- A query changes at most the node store, which `Reachable` leaves free. -/
theorem Reachable.serve {kd : KubeDNS} (h : Reachable kd) {req : Request} (hv : req.Valid kd) :
    Reachable (kd.serve req) :=
  match req, hv with
  | .event _, ⟨hv, hd⟩ => .step h hv hd
  | .query _ (.records _ _), _ => .offInformer kd.config _ h
  | .query _ (.reverse _), _ => h

/-- **Queries disturb no invariant.**  From a reachable state, along a run whose events are
valid and leave no IP owned twice, interleaved with any queries, the state reached is
reachable: its cache, reverse index and cluster IP index agree with its stores. -/
theorem serveAll_invariants {kd : KubeDNS} (h : Reachable kd) {reqs : List Request}
    (hv : ValidRun kd reqs) :
    Reachable (kd.serveAll reqs) ∧ (kd.serveAll reqs).CacheAgrees ∧
      (kd.serveAll reqs).ReverseAgrees ∧ (kd.serveAll reqs).ServiceIndexAgrees := by
  have hr : Reachable (kd.serveAll reqs) := by
    induction reqs generalizing kd with
    | nil => exact h
    | cons req reqs ih => exact ih (h.serve hv.1) hv.2
  exact ⟨hr, hr.cacheAgrees, hr.reverseAgrees, hr.serviceIndexAgrees⟩

/-- A service added, then a query for it, from a fresh engine. -/
theorem serveAll_invariants_web :
    let s : Service := ⟨"web", "prod", .clusterIP, "10.0.0.5", [], [], ""⟩
    let reqs : List Request :=
      [.event (.serviceAdd s), .query (.ok []) (.records "web.prod.svc.cluster.local." false)]
    let kd := KubeDNS.newKubeDNS "cluster.local"
    Reachable kd ∧ ValidRun kd reqs ∧ (Reachable (kd.serveAll reqs) ∧
      (kd.serveAll reqs).CacheAgrees ∧ (kd.serveAll reqs).ReverseAgrees ∧
        (kd.serveAll reqs).ServiceIndexAgrees) := by
  intro s reqs kd
  have hv : ValidRun kd reqs := ⟨⟨rfl, disjointIPs_of_servicesStore
    (@servicesStore_step_of_ne _ (.serviceAdd s) _ rfl fun _ _ => rfl)⟩, trivial, trivial⟩
  exact ⟨.init _, hv, serveAll_invariants (.init _) hv⟩

/-! ## 4. The two informers

The services informer and the endpoints informer run apart, so a service and its Endpoints
arrive in either order. -/

/-- **A service and its Endpoints commute.**  When neither is stored yet, adding the
service then its Endpoints reaches the same state as adding the Endpoints then the
service: whichever comes second builds the records, from the same stores. -/
theorem serviceAdd_endpointsAdd_comm {kd : KubeDNS} {s : Service} {e : Endpoints}
    (hkey : e.key = s.key) (hs : kd.servicesStore s.key = none)
    (he : kd.endpointsStore s.key = none) :
    (kd.step (.serviceAdd s)).step (.endpointsAdd e) =
      (kd.step (.endpointsAdd e)).step (.serviceAdd s) := by
  -- the Endpoints alone build nothing
  have hfirst : kd.step (.endpointsAdd e) = kd.storeUpdate (.endpointsAdd e) := by
    simp [KubeDNS.step, KubeDNS.handle, KubeDNS.handleEndpointAdd, KubeDNS.addDNSUsingEndpoints,
      KubeDNS.getServiceFromEndpoints, KubeDNS.storeUpdate, hkey, hs]
  set kdS := kd.storeUpdate (.serviceAdd s)
  set kdSE := kdS.storeUpdate (.endpointsAdd e)
  have hstores : (kd.storeUpdate (.endpointsAdd e)).storeUpdate (.serviceAdd s) = kdSE := rfl
  have hsvc : ∀ kd' : KubeDNS, KubeDNS.Frame kdSE kd' → kd'.getServiceFromEndpoints e = some s :=
    fun kd' hf => by simp [KubeDNS.getServiceFromEndpoints, hf.servicesStore, kdSE, kdS,
      KubeDNS.storeUpdate, hkey]
  rw [hfirst, KubeDNS.step, KubeDNS.step, KubeDNS.step, KubeDNS.handle, KubeDNS.handle, hstores]
  by_cases hh : s.type ≠ .externalName ∧ isServiceIPSet s = false
  · -- headless: the second to come builds the records from both stores
    have h1 : kdS.newService s = kdS := by
      simp [KubeDNS.newService, hh, KubeDNS.newHeadlessService, kdS, KubeDNS.storeUpdate, he]
    rw [h1, KubeDNS.handle, KubeDNS.handleEndpointAdd, KubeDNS.addDNSUsingEndpoints,
      hsvc kdSE (KubeDNS.Frame.refl _)]
    simp [KubeDNS.newService, hh, KubeDNS.newHeadlessService, kdSE, kdS, KubeDNS.storeUpdate, hkey]
  · -- otherwise the service's records do not read the Endpoints, which add nothing
    have h2 : (kdS.newService s).storeUpdate (.endpointsAdd e) = kdSE.newService s := by
      simp only [KubeDNS.newService]
      split_ifs with hen hip
      · rfl
      · exact absurd ⟨hen, by simpa using hip⟩ hh
      · rfl
    have hcond : (isServiceIPSet s || s.type == .externalName) = true := by
      by_cases hen : s.type = .externalName <;> simp_all
    rw [KubeDNS.handle, h2, KubeDNS.handleEndpointAdd, KubeDNS.addDNSUsingEndpoints,
      hsvc _ (KubeDNS.frame_newService _ s)]
    exact if_pos hcond

/-- A headless service `prod/db` and its one named endpoint, in either order. -/
theorem serviceAdd_endpointsAdd_comm_db :
    let s : Service := ⟨"db", "prod", .clusterIP, "None", [], [], ""⟩
    let e : Endpoints := ⟨"db", "prod", [⟨[⟨"10.1.0.7", "db-0"⟩], []⟩]⟩
    let kd := KubeDNS.newKubeDNS "cluster.local"
    e.key = s.key ∧ kd.servicesStore s.key = none ∧ kd.endpointsStore s.key = none ∧
      (kd.step (.serviceAdd s)).step (.endpointsAdd e) =
        (kd.step (.endpointsAdd e)).step (.serviceAdd s) :=
  ⟨rfl, rfl, rfl, serviceAdd_endpointsAdd_comm rfl rfl rfl⟩

/-- `ReverseRecord` of an `in-addr.arpa` name reads the reverse index at its IP. -/
theorem KubeDNS.reverseRecord_arpaName (kd : KubeDNS) (ip : String) :
    kd.reverseRecord (arpaName ip) = match kd.reverseRecordMap ip with
      | some r => .ok r
      | none => .error (.error (.message "must be exactly one service record")) := by
  simp only [KubeDNS.reverseRecord, extractIP_arpaName.1 ip]
  rfl

/-- Deleting a headless service leaves the reverse index alone. -/
theorem KubeDNS.step_serviceDelete_reverseRecordMap (kd : KubeDNS) {s : Service}
    (hip : isServiceIPSet s = false) :
    (kd.step (.serviceDelete s)).reverseRecordMap = kd.reverseRecordMap := by
  simp [KubeDNS.step, KubeDNS.handle, KubeDNS.removeService, hip]

/-- **The order of two deletes decides whether a pod's PTR survives.**  In every state of
a valid run, take a headless service with stored Endpoints and an address of them with a
hostname.  If the Endpoints are deleted first, `handleEndpointDelete` drops the address's
reverse record and `ReverseRecord` answers `NotFound`.  If the service is deleted first,
`removeService` leaves the reverse index alone (the service has no cluster IP), the
Endpoints' delete then finds no service and drops nothing, and `ReverseRecord` keeps
answering the deleted pod's PTR. -/
theorem headless_deletes_order {kd : KubeDNS} (h : Reachable kd) {s : Service} {e : Endpoints}
    (hs : kd.servicesStore s.key = some s) (hen : s.type ≠ .externalName)
    (hip : isServiceIPSet s = false) (hkey : e.key = s.key) (he : kd.endpointsStore s.key = some e)
    {ip host : String} (hl : lastHostname (addresses e) ip = some host) :
    ((kd.step (.serviceDelete s)).step (.endpointsDelete e)).reverseRecord (arpaName ip) =
        .ok (kd.headlessPTR s host) ∧
      ((kd.step (.endpointsDelete e)).step (.serviceDelete s)).reverseRecord (arpaName ip) =
        .error (.error (.message "must be exactly one service record")) := by
  have hptr : kd.reverseRecordMap ip = some (kd.headlessPTR s host) := h.reverseAgrees s.key ip _
    (KubeDNS.expectedPTR_eq_some.2 ⟨s, hs, hen, .inr ⟨hip, e, host, he, hl, rfl⟩⟩)
  have hmem : ip ∈ hostnamedIPs e := lastHostname_isSome_iff.1 (by simp [hl])
  -- service first: the Endpoints' delete finds no service
  have hgone : ((kd.step (.serviceDelete s)).storeUpdate (.endpointsDelete e)).servicesStore e.key =
      none := by
    simp [KubeDNS.storeUpdate, hkey]
  -- Endpoints first: their delete drops the address's reverse record
  have hdrop : (kd.step (.endpointsDelete e)).reverseRecordMap ip = none := by
    rw [KubeDNS.step, KubeDNS.handle, KubeDNS.handleEndpointDelete_reverseRecordMap
      (by simpa [KubeDNS.storeUpdate, hkey] using hs) hip, if_pos hmem]
  constructor
  · rw [KubeDNS.reverseRecord_arpaName, KubeDNS.step, KubeDNS.handle, KubeDNS.handleEndpointDelete,
      KubeDNS.getServiceFromEndpoints, hgone]
    simp [KubeDNS.step_serviceDelete_reverseRecordMap _ hip, hptr]
  · rw [KubeDNS.reverseRecord_arpaName, KubeDNS.step_serviceDelete_reverseRecordMap _ hip, hdrop]

/-- A headless service `prod/db` whose one endpoint `db-0` is at `10.1.0.7`. -/
theorem headless_deletes_order_db :
    let s : Service := ⟨"db", "prod", .clusterIP, "None", [], [], ""⟩
    let e : Endpoints := ⟨"db", "prod", [⟨[⟨"10.1.0.7", "db-0"⟩], []⟩]⟩
    let kd := ((KubeDNS.newKubeDNS "cluster.local").step (.serviceAdd s)).step (.endpointsAdd e)
    Reachable kd ∧
      ((kd.step (.serviceDelete s)).step (.endpointsDelete e)).reverseRecord (arpaName "10.1.0.7") =
        .ok (kd.headlessPTR s "db-0") ∧
      ((kd.step (.endpointsDelete e)).step (.serviceDelete s)).reverseRecord (arpaName "10.1.0.7") =
        .error (.error (.message "must be exactly one service record")) := by
  intro s e kd
  have h₁ := @servicesStore_step_of_ne (KubeDNS.newKubeDNS "cluster.local") (.serviceAdd s) _ rfl
    fun _ _ => rfl
  have hr : Reachable kd := .step (reachable_serviceAdd _ s) rfl
    (disjointIPs_of_servicesStore (@servicesStore_step_of_ne _ (.endpointsAdd e) _ rfl h₁))
  exact ⟨hr, @headless_deletes_order kd hr s e (by decide) (by decide) rfl rfl (by decide) _ _
    (by decide)⟩

/-! ## 5. Queries and the handlers

A query writes the node store alone, and no handler reads it: each handler, run on a state
with another node store, gives the same state with that node store. -/

namespace KubeDNS

variable (ns : List Node) (kd : KubeDNS)

theorem newService_setNodes (s : Service) :
    { kd with nodesStore := ns }.newService s = { kd.newService s with nodesStore := ns } := by
  unfold newService newHeadlessService
  split_ifs
  · rfl
  · cases h : kd.endpointsStore s.key <;> simp only [h]; rfl
  · rfl

theorem removeService_setNodes (s : Service) :
    { kd with nodesStore := ns }.removeService s =
      { kd.removeService s with nodesStore := ns } := by
  unfold removeService
  split_ifs <;> rfl

theorem updateService_setNodes (old new : Service) :
    { kd with nodesStore := ns }.updateService old new =
      { kd.updateService old new with nodesStore := ns } := by
  unfold updateService
  split_ifs
  · rw [removeService_setNodes, newService_setNodes]
  · exact newService_setNodes ns kd new

theorem addDNSUsingEndpoints_setNodes (e : Endpoints) :
    { kd with nodesStore := ns }.addDNSUsingEndpoints e =
      { kd.addDNSUsingEndpoints e with nodesStore := ns } := by
  unfold addDNSUsingEndpoints getServiceFromEndpoints
  cases h : kd.servicesStore e.key <;> simp only [h]
  split_ifs <;> rfl

theorem removeOldPTRRecords_setNodes (old new : Endpoints) :
    { kd with nodesStore := ns }.removeOldPTRRecords old new =
      { kd.removeOldPTRRecords old new with nodesStore := ns } := by
  unfold removeOldPTRRecords getServiceFromEndpoints
  cases h : kd.servicesStore old.key <;> simp only [h]
  split_ifs <;> rfl

theorem handleEndpointDelete_setNodes (e : Endpoints) :
    { kd with nodesStore := ns }.handleEndpointDelete e =
      { kd.handleEndpointDelete e with nodesStore := ns } := by
  unfold handleEndpointDelete getServiceFromEndpoints
  cases h : kd.servicesStore e.key <;> simp only [h]
  split_ifs <;> rfl

/-- No handler reads the node store. -/
theorem step_setNodes (ev : Event) :
    { kd with nodesStore := ns }.step ev = { kd.step ev with nodesStore := ns } := by
  have hs : { kd with nodesStore := ns }.storeUpdate ev =
      { kd.storeUpdate ev with nodesStore := ns } := by
    cases ev <;> rfl
  rw [step, step, hs]
  cases ev with
  | serviceAdd s => exact newService_setNodes ns _ s
  | serviceUpdate old new => exact updateService_setNodes ns _ old new
  | serviceDelete s => exact removeService_setNodes ns _ s
  | endpointsAdd e => exact addDNSUsingEndpoints_setNodes ns _ e
  | endpointsUpdate old new =>
    show ({ kd.storeUpdate _ with nodesStore := ns }.removeOldPTRRecords old
      new).addDNSUsingEndpoints new = _
    rw [removeOldPTRRecords_setNodes, addDNSUsingEndpoints_setNodes]
    rfl
  | endpointsDelete e => exact handleEndpointDelete_setNodes ns _ e

theorem foldl_step_setNodes (evs : List Event) :
    evs.foldl step { kd with nodesStore := ns } = { evs.foldl step kd with nodesStore := ns } := by
  induction evs generalizing kd with
  | nil => rfl
  | cons ev evs ih => rw [List.foldl_cons, step_setNodes, ih, List.foldl_cons]

end KubeDNS

/-- The event a request delivers, if it is one. -/
def Request.event? : Request → Option Event
  | .event ev => some ev
  | .query _ _ => none

/-- **Queries never change what the handlers see.**  Over any run, events and queries
interleaved in any order, the state reached is the state the run's events alone reach from
the same state, but for the node store: the cache, the reverse index, the cluster IP index,
the stores and the configuration are those of the events. -/
theorem serveAll_events (kd : KubeDNS) (reqs : List Request) :
    kd.serveAll reqs = { (reqs.filterMap Request.event?).foldl KubeDNS.step kd with
      nodesStore := (kd.serveAll reqs).nodesStore } := by
  induction reqs generalizing kd with
  | nil => rfl
  | cons req reqs ih =>
    cases req with
    | event ev => exact ih (kd.step ev)
    | query nodeList q =>
      -- the query replaces the node store, which the later events carry along
      have hq : kd.serve (.query nodeList q) =
          { kd with nodesStore := (kd.serve (.query nodeList q)).nodesStore } := by
        cases q <;> rfl
      have hevs := KubeDNS.foldl_step_setNodes (kd.serve (.query nodeList q)).nodesStore kd
        (reqs.filterMap Request.event?)
      rw [← hq] at hevs
      show (kd.serve _).serveAll reqs = _
      rw [ih, hevs]
      rfl

/-! ## 6. Queries and queries

`Records` reads the node store only through `getClusterZoneAndRegion`, which from the
store a call left answers as that call did (`getClusterZoneAndRegion_twice`). -/

namespace KubeDNS

/-- The local lookup reads the cache, the domain and the configuration only. -/
theorem localLookup_congr {kd kd' : KubeDNS} (hc : kd'.cache = kd.cache)
    (hd : kd'.domain = kd.domain) (hcfg : kd'.config = kd.config) :
    kd'.localLookup = kd.localLookup := by
  cases kd
  cases kd'
  simp only at hc hd hcfg
  subst hc hd hcfg
  rfl

variable {kd : KubeDNS} {ns : List Node} {nodeList : NodeList}

theorem federationRecords_fst_setNodes
    (h : (getClusterZoneAndRegion ns nodeList).1 =
      (getClusterZoneAndRegion kd.nodesStore nodeList).1)
    (queryPath : List String) :
    ({ kd with nodesStore := ns }.federationRecords nodeList queryPath).1 =
      (kd.federationRecords nodeList queryPath).1 := by
  have h1 : { kd with nodesStore := ns }.isFederationQuery = kd.isFederationQuery := rfl
  have h2 : { kd with nodesStore := ns }.domainPath = kd.domainPath := rfl
  have h3 : { kd with nodesStore := ns }.federations = kd.federations := rfl
  unfold federationRecords
  rw [h1, h2, h3]
  dsimp only
  split
  · rfl
  · rfl
  · split
    · rfl
    · -- the zone lookup's answer is all the redirect reads of the store
      rcases hg : getClusterZoneAndRegion ns nodeList with ⟨_ | ⟨z, r⟩, nodes⟩ <;>
      rcases hg' : getClusterZoneAndRegion kd.nodesStore nodeList with ⟨_ | ⟨z', r'⟩, nodes'⟩ <;>
      simp only [hg, hg'] at h ⊢ <;> cases h <;> rfl

/-- `Records` answers alike from two node stores on which the zone lookup answers alike. -/
theorem records_fst_setNodes
    (h : (getClusterZoneAndRegion ns nodeList).1 =
      (getClusterZoneAndRegion kd.nodesStore nodeList).1)
    (name : String) (exact : Bool) :
    ({ kd with nodesStore := ns }.records nodeList name exact).1 =
      (kd.records nodeList name exact).1 := by
  have hl : { kd with nodesStore := ns }.localLookup = kd.localLookup :=
    localLookup_congr rfl rfl rfl
  have hv : { kd with nodesStore := ns }.isValidLocalRecord = kd.isValidLocalRecord := rfl
  unfold records recordsForFederation
  rw [hl, hv]
  split
  · rfl
  · split_ifs
    · rfl
    · exact federationRecords_fst_setNodes h _
    · rfl
  · rfl

/-- A query leaves every later query with the same node list its answer. -/
theorem serve_query_answer (kd : KubeDNS) (nodeList : NodeList) (q q' : Query) :
    (kd.serve (.query nodeList q)).answer nodeList q' = kd.answer nodeList q' := by
  cases q with
  | reverse => rfl
  | records name exact =>
    cases q' with
    | reverse => rfl
    | records name' exact' =>
      refine records_fst_setNodes ?_ name' exact'
      rcases records_nodesStore kd nodeList name exact with h | h <;> rw [h]
      rw [getClusterZoneAndRegion_twice]

end KubeDNS

/-- **Queries asked with the same node list leave each other's answers alone.**  From any
state, after any queries asked with the node list the API returns, every query asked with
that list gets the answer it gets from the state before them.  A query writes the node
store alone, and only with the node `getClusterZoneAndRegion` would pick again from the
same list. -/
theorem queries_do_not_interfere (kd : KubeDNS) (nodeList : NodeList) (qs : List Query)
    (q : Query) :
    (kd.serveAll (qs.map (Request.query nodeList))).answer nodeList q = kd.answer nodeList q := by
  induction qs generalizing kd with
  | nil => rfl
  | cons q' qs ih =>
    exact (ih (kd.serve (.query nodeList q'))).trans (kd.serve_query_answer nodeList q' q)

end KubeDns
