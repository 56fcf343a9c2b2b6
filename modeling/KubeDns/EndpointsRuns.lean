/-
# What Endpoints events do to the answers

Of the Endpoints handlers only `addDNSUsingEndpoints` writes records, and only for a
stored headless service, whose subtree it swaps for the one
`generateRecordsForHeadlessService` builds.  `handleEndpointDelete` drops reverse records
and leaves the cache as it is.  A forward query reads the cache, the domain, the
configuration and the node store (`records_congr`), and the Endpoints store only in the
federation check.  Hence:

* `endpoints_events_keep_forward_answers`: in every state, deleting an Endpoints object,
  and adding or updating one whose service is absent, has a cluster IP or is an
  ExternalName service, changes no answer of a forward query outside the federation
  branch.  The records built from deleted Endpoints stay served
  (`cache_keeps_deleted_endpoints` shows one such record);
* `reachable_headless_federation_answer`: in every state of a valid run, the federation
  query of a headless service with stored Endpoints is answered locally exactly when the
  Endpoints have an address (no address being a cluster IP), where a cluster-IP service
  counts any subset (`reachable_federation_answer`);
* `headless_federation_after_endpoints_delete`: once those Endpoints are deleted, the
  query is still answered locally.  `recordsForFederation` trusts a headless record to
  prove Endpoints, and the deleted Endpoints' records are still there;
* `endpointsUpdate_eq_delete_add`: an Endpoints update reaches the state its delete then
  its add reach, so `oldAddressMap` drops exactly the reverse records it must.  The one
  exception is an ExternalName service without cluster IP.
-/
import KubeDns.FederationRuns
import KubeDns.Server

namespace KubeDns

/-- A leaf outside the node written survives the write. -/
theorem TreeCache.mem_setEntry_of_path_ne {c : TreeCache} {x : CacheEntry} {key fqdn : String}
    {val : SkyService} {path : List String} (hx : x ∈ c.entries) (hp : x.path ≠ path) :
    x ∈ (c.setEntry key val fqdn path).entries :=
  List.mem_cons_of_mem _ (List.mem_filter.2 ⟨hx, by simp [CacheEntry.slot, hp]⟩)

namespace KubeDNS

/-! ## 1. What a forward query reads -/

/-- Outside the federation branch, `Records` reads the local lookup and the node store. -/
theorem records_congr {kd kd' : KubeDNS} (hc : kd'.cache = kd.cache)
    (hd : kd'.domain = kd.domain)
    (hcfg : kd'.config = kd.config) (hn : kd'.nodesStore = kd.nodesStore) {nodeList : NodeList}
    {name : String} {exact : Bool}
    (hlocal : exact = true ∨
      kd.isFederationQuery (Strings.split (Strings.trimRight name '.') '.') ≠ .ok true) :
    kd'.records nodeList name exact = kd.records nodeList name exact := by
  unfold records
  rw [localLookup_congr hc hd hcfg, hn]
  split
  · rfl
  · next fs path rs hl =>
    obtain ⟨rfl, hfed⟩ := (localLookup_some_iff kd _ exact).1 ⟨fs, path, rs, hl⟩
    exact absurd hfed (hlocal.resolve_left Bool.false_ne_true)
  · rfl

/-- A step that leaves the cache as it was changes no answer outside the federation
branch: the handlers keep the domain, the configuration and the node store. -/
theorem records_step_of_cache {kd : KubeDNS} {ev : Event} (hc : (kd.step ev).cache = kd.cache)
    {nodeList : NodeList} {name : String} {exact : Bool}
    (hlocal : exact = true ∨
      kd.isFederationQuery (Strings.split (Strings.trimRight name '.') '.') ≠ .ok true) :
    (kd.step ev).records nodeList name exact = kd.records nodeList name exact :=
  records_congr hc (step_domain kd ev) ((frame_handle _ ev).config.trans (by cases ev <;> rfl))
    (step_nodesStore kd ev) hlocal

end KubeDNS

/-! ## 2. Endpoints events that write no records -/

/-- **Endpoints events that write no records change no forward answer.**  For every state
and every forward query that takes no federation branch (an exact one, or one whose name
`isFederationQuery` does not accept): deleting an Endpoints object leaves the answer as it
was, whatever service it belonged to, since the records built from it stay in the cache;
and adding or updating one leaves it as it was unless the service it names is stored and
headless. -/
theorem endpoints_events_keep_forward_answers (kd : KubeDNS) (nodeList : NodeList)
    (name : String) (exact : Bool)
    (hlocal : exact = true ∨ kd.isFederationQuery (Strings.split (Strings.trimRight name '.') '.') ≠ .ok true) :
    (∀ e, (kd.step (.endpointsDelete e)).records nodeList name exact = kd.records nodeList name exact) ∧
    ∀ old e, (∀ svc, kd.servicesStore e.key = some svc →
        isServiceIPSet svc = true ∨ svc.type = .externalName) →
      (kd.step (.endpointsAdd e)).records nodeList name exact = kd.records nodeList name exact ∧
        (kd.step (.endpointsUpdate old e)).records nodeList name exact =
          kd.records nodeList name exact := by
  refine ⟨fun e => KubeDNS.records_step_of_cache ?_ hlocal,
    fun old e hsvc =>
      ⟨KubeDNS.records_step_of_cache ?_ hlocal, KubeDNS.records_step_of_cache ?_ hlocal⟩⟩
  · exact KubeDNS.handleEndpointDelete_cache (kd.storeUpdate (.endpointsDelete e)) e
  · -- the add finds no headless service
    show ((kd.storeUpdate (.endpointsAdd e)).addDNSUsingEndpoints e).cache = kd.cache
    rw [@KubeDNS.addDNSUsingEndpoints_of_not_headless (kd.storeUpdate (.endpointsAdd e)) e hsvc]
    rfl
  · -- the update drops reverse records, then finds no headless service
    have hrm := KubeDNS.frame_removeOldPTRRecords (kd.storeUpdate (.endpointsUpdate old e)) old e
    show (((kd.storeUpdate (.endpointsUpdate old e)).removeOldPTRRecords old e).addDNSUsingEndpoints
      e).cache = kd.cache
    rw [KubeDNS.addDNSUsingEndpoints_of_not_headless (by rw [hrm.servicesStore]; exact hsvc),
      KubeDNS.removeOldPTRRecords_cache]
    rfl

/-- The headless service `prod/db` with its one endpoint `db-0` at `10.1.0.7`, from a fresh
engine, is a state of a valid run. -/
theorem reachable_db :
    let s : Service := ⟨"db", "prod", .clusterIP, "None", [], [], ""⟩
    let e : Endpoints := ⟨"db", "prod", [⟨[⟨"10.1.0.7", "db-0"⟩], []⟩]⟩
    Reachable (((KubeDNS.newKubeDNS "cluster.local").step (.serviceAdd s)).step (.endpointsAdd e)) := by
  intro s e
  have h₁ := @servicesStore_step_of_ne (KubeDNS.newKubeDNS "cluster.local") (.serviceAdd s) _ rfl
    fun _ _ => rfl
  exact .step (reachable_serviceAdd _ s) rfl
    (disjointIPs_of_servicesStore (@servicesStore_step_of_ne _ (.endpointsAdd e) _ rfl h₁))

/-- The A record of `db-0.db.prod.svc.cluster.local.` is still the exact answer after the
Endpoints of `prod/db` are deleted. -/
theorem endpoints_events_keep_forward_answers_db :
    let s : Service := ⟨"db", "prod", .clusterIP, "None", [], [], ""⟩
    let e : Endpoints := ⟨"db", "prod", [⟨[⟨"10.1.0.7", "db-0"⟩], []⟩]⟩
    let kd := ((KubeDNS.newKubeDNS "cluster.local").step (.serviceAdd s)).step (.endpointsAdd e)
    let name := "db-0.db.prod.svc.cluster.local."
    (kd.records (.ok []) name true).1 = .ok [(getSkyMsg "10.1.0.7" 0).1] ∧
      (kd.step (.endpointsDelete e)).records (.ok []) name true = kd.records (.ok []) name true := by
  intro s e kd name
  exact ⟨by decide, (endpoints_events_keep_forward_answers kd (.ok []) name true (.inl rfl)).1 e⟩

/-! ## 3. The records of a headless service -/

namespace KubeDNS

variable {kd : KubeDNS} {svc : Service}

/-- The SRV loop of an address keeps every leaf of the service's node itself. -/
theorem mem_foldl_headlessPortRecords {x : CacheEntry} (hx0 : x.path = []) (name : String)
    (ports : List EndpointPort) {c : TreeCache} (hx : x ∈ c.entries) :
    x ∈ (ports.foldl (kd.headlessPortRecords svc name) c).entries := by
  induction ports generalizing c with
  | nil => exact hx
  | cons p ps ih =>
    apply ih
    rw [headlessPortRecords]
    split_ifs
    · exact TreeCache.mem_setEntry_of_path_ne hx (by simp [hx0, srvLabels])
    · exact hx

/-- The address loop ends with the A record of an address at the node itself, once it has
seen one: each address writes its own, which its SRV loop keeps. -/
theorem exists_host_foldl_headlessAddressRecords (good : String → Prop)
    (ports : List EndpointPort) :
    ∀ (as : List EndpointAddress) (acc : HeadlessAcc), (∀ a ∈ as, good a.ip) →
      (∃ x ∈ acc.1.entries, x.path = [] ∧ good x.value.host) ∨ as ≠ [] →
      ∃ x ∈ (as.foldl (kd.headlessAddressRecords svc ports) acc).1.entries,
        x.path = [] ∧ good x.value.host
  | [], _, _, h => by simpa using h
  | a :: as, acc, hg, _ => by
    have hA : ⟨[], endpointName a, (getSkyMsg a.ip 0).1, kd.fqdn svc [endpointName a]⟩ ∈
        (kd.headlessAddressRecords svc ports acc a).1.entries := by
      rw [headlessAddressRecords_fst]
      exact mem_foldl_headlessPortRecords rfl _ _ (List.mem_cons_self _ _)
    exact exists_host_foldl_headlessAddressRecords good ports as _
      (fun b hb => hg b (List.mem_cons_of_mem _ hb))
      (.inl ⟨_, hA, rfl, hg a (List.mem_cons_self _ _)⟩)

/-- The subset loop ends with the A record of an address, when the Endpoints have one. -/
theorem exists_host_foldl_subsets (good : String → Prop) :
    ∀ (subsets : List EndpointSubset) (acc : HeadlessAcc),
      (∀ a ∈ subsets.flatMap EndpointSubset.addresses, good a.ip) →
      (∃ x ∈ acc.1.entries, x.path = [] ∧ good x.value.host) ∨
        subsets.flatMap EndpointSubset.addresses ≠ [] →
      ∃ x ∈ (subsets.foldl (fun acc subset =>
          subset.addresses.foldl (kd.headlessAddressRecords svc subset.ports) acc) acc).1.entries,
        x.path = [] ∧ good x.value.host
  | [], _, _, h => by simpa using h
  | sub :: rest, acc, hg, h => by
    simp only [List.flatMap_cons, List.mem_append, ne_eq, List.append_eq_nil, not_and_or] at hg h
    refine exists_host_foldl_subsets good rest _ (fun a ha => hg a (.inr ha)) ?_
    by_cases hsub : (∃ x ∈ acc.1.entries, x.path = [] ∧ good x.value.host) ∨ sub.addresses ≠ []
    · exact .inl (exists_host_foldl_headlessAddressRecords good _ _ _ (fun a ha => hg a (.inl ha))
        hsub)
    · -- neither a record yet nor an address here: the addresses are further on
      obtain ⟨hnone, haddr⟩ := not_or.1 hsub
      exact .inr ((h.resolve_left hnone).resolve_left haddr)

/-- Endpoints with an address give the subtree an A record at the service's node. -/
theorem exists_host_headlessRecords (good : String → Prop) (e : Endpoints)
    (hg : ∀ a ∈ addresses e, good a.ip) (hne : addresses e ≠ []) :
    ∃ x ∈ (kd.headlessRecords e svc).1.entries, x.path = [] ∧ good x.value.host :=
  exists_host_foldl_subsets good e.subsets _ hg (.inr hne)

/-- Endpoints without an address give an empty subtree. -/
theorem headlessRecords_entries_nil {e : Endpoints} (h : addresses e = []) :
    (kd.headlessRecords e svc).1.entries = [] := by
  suffices ∀ subsets : List EndpointSubset, (∀ sub ∈ subsets, sub.addresses = []) →
      ∀ acc : HeadlessAcc, subsets.foldl (fun acc subset =>
        subset.addresses.foldl (kd.headlessAddressRecords svc subset.ports) acc) acc = acc from
    congrArg (·.1.entries) (this e.subsets (by simpa [addresses] using h) _)
  intro subsets hs acc
  induction subsets generalizing acc with
  | nil => rfl
  | cons sub rest ih =>
    rw [List.foldl_cons, hs sub (List.mem_cons_self _ _), List.foldl_nil]
    exact ih (fun s hs' => hs s (List.mem_cons_of_mem _ hs')) acc

end KubeDNS

/-! ## 4. The federation query of a headless service -/

section HeadlessFederation

variable {kd : KubeDNS} (h : Reachable kd) (hdom : (Strings.trimRight kd.domain '.').data ≠ [])
  (hstar : "*" ∉ kd.domainPath) {cfg : Config} {f d : String} (hcfg : kd.config = some cfg)
  (hd : cfg.federations.lookup f = some d) {s : Service} (hs : kd.servicesStore s.key = some s)
  (hname : isDNS1035Label s.name = true) (hns : isDNS1123Label s.namespace = true)
  (hf : isDNS1123Label f = true) (hen : s.type ≠ .externalName) (hip : isServiceIPSet s = false)
  {e : Endpoints} (he : kd.endpointsStore s.key = some e)
include h hdom hstar hcfg hd hs hname hns hf hen hip he

/-- **A federation query of a headless service is answered locally exactly when its
Endpoints have an address.**  In every state of a valid run with a configured federation
`f ↦ d`, for a stored headless service with stored Endpoints, none of whose addresses is a
key of the cluster IP index: `Records` answers the query `s.ns.f.svc.<domain>` with the
local CNAME when the Endpoints have an address, and with what `federationRecords` answers
when they have none, whatever their subsets. -/
theorem reachable_headless_federation_answer
    (hindex : ∀ a ∈ addresses e, kd.clusterIPServiceMap a.ip = none) (nodeList : NodeList) :
    let name := Strings.join [s.name, s.namespace, f, serviceSubdomain, kd.domain] '.'
    (addresses e ≠ [] → kd.records nodeList name false =
      (.ok [hostRecord (s.name ++ "." ++ s.namespace ++ ".svc." ++
        Strings.trimRight kd.domain '.' ++ ".")], kd.nodesStore)) ∧
    (addresses e = [] → kd.records nodeList name false =
      kd.federationRecords nodeList (reverseArray (Strings.split (Strings.trimRight name '.') '.'))) := by
  intro name
  obtain ⟨rs, hrs, hlook⟩ := localLookup_federation_slot h hdom hstar hcfg hd hs hname hns hf
    (KubeDNS.expectedSubtree_headless hen hip he)
  rw [KubeDNS.records_of_localLookup hlook]
  refine ⟨fun hne => ?_, fun hnil => ?_⟩
  · obtain ⟨x, hx, -, hgood⟩ := KubeDNS.exists_host_headlessRecords
      (fun ip => kd.clusterIPServiceMap ip = none) e hindex hne
    exact KubeDNS.recordsForFederation_local hdom (List.any_eq_true.2
      ⟨_, (hrs _).2 ⟨x, hx, rfl⟩, KubeDNS.isValidLocalRecord_of_index hgood⟩)
  · -- no address, no local record
    have hrs0 : rs = [] := List.eq_nil_iff_forall_not_mem.2 fun r hr => by
      obtain ⟨x, hx, -⟩ := (hrs r).1 hr
      rw [KubeDNS.headlessRecords_entries_nil hnil] at hx
      cases hx
    rw [hrs0, KubeDNS.recordsForFederation]
    rfl

/-- **Deleting a headless service's Endpoints does not stop its federation query from being
answered locally.**  In the same states, when the Endpoints have an address: after their
delete the Endpoints store holds none for the service, yet `Records` still answers the
query with the local CNAME.  The delete leaves the service's records in the cache, and
`recordsForFederation` counts a record whose Host is no cluster IP as a headless service's,
"which has endpoints for sure if a record was returned for it". -/
theorem headless_federation_after_endpoints_delete (hkey : e.key = s.key)
    (hindex : ∀ a ∈ addresses e, kd.clusterIPServiceMap a.ip = none) (hne : addresses e ≠ [])
    (nodeList : NodeList) :
    let kd' := kd.step (.endpointsDelete e)
    kd'.endpointsStore s.key = none ∧
      kd'.records nodeList (Strings.join [s.name, s.namespace, f, serviceSubdomain, kd.domain] '.') false =
        (.ok [hostRecord (s.name ++ "." ++ s.namespace ++ ".svc." ++
          Strings.trimRight kd.domain '.' ++ ".")], kd.nodesStore) := by
  intro kd'
  obtain ⟨rs, hrs, hlook⟩ := localLookup_federation_slot h hdom hstar hcfg hd hs hname hns hf
    (KubeDNS.expectedSubtree_headless hen hip he)
  -- the delete keeps the cache, the domain, the configuration, the index and the node store
  have hd' : kd'.domain = kd.domain := KubeDNS.step_domain kd _
  have hc : kd'.cache = kd.cache := KubeDNS.handleEndpointDelete_cache _ e
  have hcfg' : kd'.config = kd.config := (KubeDNS.frame_handle _ _).config
  have hindex' : kd'.clusterIPServiceMap = kd.clusterIPServiceMap :=
    KubeDNS.handleEndpointDelete_clusterIPServiceMap _ e
  refine ⟨by simp [kd', KubeDNS.storeUpdate, hkey], ?_⟩
  obtain ⟨x, hx, -, hgood⟩ := KubeDNS.exists_host_headlessRecords
    (fun ip => kd.clusterIPServiceMap ip = none) e hindex hne
  have hvalid : kd'.isValidLocalRecord x.value = true :=
    KubeDNS.isValidLocalRecord_of_index (by rw [hindex']; exact hgood)
  rw [KubeDNS.records_of_localLookup ((KubeDNS.localLookup_congr hc hd' hcfg').symm ▸ hlook),
    ← KubeDNS.domainPath_congr hd', KubeDNS.recordsForFederation_local (hd'.symm ▸ hdom)
      (List.any_eq_true.2 ⟨_, (hrs _).2 ⟨x, hx, rfl⟩, hvalid⟩), hd', KubeDNS.step_nodesStore]

end HeadlessFederation

/-- The headless service `prod/db`, its endpoint `db-0` at `10.1.0.7`, federation `fed`:
`db.prod.fed.svc.cluster.local` is answered locally. -/
theorem reachable_headless_federation_answer_db :
    let s : Service := ⟨"db", "prod", .clusterIP, "None", [], [], ""⟩
    let e : Endpoints := ⟨"db", "prod", [⟨[⟨"10.1.0.7", "db-0"⟩], []⟩]⟩
    let kd : KubeDNS := { ((KubeDNS.newKubeDNS "cluster.local").step (.serviceAdd s)).step
      (.endpointsAdd e) with config := some ⟨[("fed", "example.com")], []⟩, nodesStore := [] }
    Reachable kd ∧ kd.records (.ok []) "db.prod.fed.svc.cluster.local" false =
      (.ok [hostRecord "db.prod.svc.cluster.local."], []) := by
  intro s e kd
  have hr : Reachable kd := .offInformer _ _ reachable_db
  have hs : kd.servicesStore s.key = some s := by decide
  have he : kd.endpointsStore s.key = some e := by decide
  exact ⟨hr, (reachable_headless_federation_answer hr (by decide) (by decide) rfl
    (rfl : [("fed", "example.com")].lookup "fed" = some "example.com") hs (by decide) (by decide)
    (by decide) (by decide) rfl he (by decide) (.ok [])).1 (by decide)⟩

/-- After the Endpoints of `prod/db` are deleted, `db.prod.fed.svc.cluster.local` is still
answered locally. -/
theorem headless_federation_after_endpoints_delete_db :
    let s : Service := ⟨"db", "prod", .clusterIP, "None", [], [], ""⟩
    let e : Endpoints := ⟨"db", "prod", [⟨[⟨"10.1.0.7", "db-0"⟩], []⟩]⟩
    let kd : KubeDNS := { ((KubeDNS.newKubeDNS "cluster.local").step (.serviceAdd s)).step
      (.endpointsAdd e) with config := some ⟨[("fed", "example.com")], []⟩, nodesStore := [] }
    Reachable kd ∧ (kd.step (.endpointsDelete e)).endpointsStore s.key = none ∧
      (kd.step (.endpointsDelete e)).records (.ok []) "db.prod.fed.svc.cluster.local" false =
        (.ok [hostRecord "db.prod.svc.cluster.local."], []) := by
  intro s e kd
  have hr : Reachable kd := .offInformer _ _ reachable_db
  have hs : kd.servicesStore s.key = some s := by decide
  have he : kd.endpointsStore s.key = some e := by decide
  exact ⟨hr, headless_federation_after_endpoints_delete hr (by decide) (by decide) rfl
    (rfl : [("fed", "example.com")].lookup "fed" = some "example.com") hs (by decide) (by decide)
    (by decide) (by decide) rfl he rfl (by decide) (by decide) (.ok [])⟩

/-! ## 5. An update is a delete and an add

`handleEndpointUpdate` drops the reverse records of the old hostnamed IPs that no new
address names with a hostname (`oldAddressMap`), then adds the new records.  Dropping every
old hostnamed IP instead, as a delete does, comes to the same: an IP the new Endpoints name
with a hostname gets its new reverse record either way. -/

/-- **An Endpoints update is the delete of the old object followed by the add of the new
one.**  In every state, for an update that keeps the key, and unless the service is an
ExternalName service without cluster IP (whose reverse records the update keeps and the
delete drops): both reach the same state, stores, cache and reverse index alike. -/
theorem endpointsUpdate_eq_delete_add (kd : KubeDNS) (old new : Endpoints) (hkey : new.key = old.key)
    (hen : ∀ svc, kd.servicesStore old.key = some svc →
      svc.type ≠ .externalName ∨ isServiceIPSet svc = true) :
    kd.step (.endpointsUpdate old new) = (kd.step (.endpointsDelete old)).step (.endpointsAdd new) := by
  have hes : Function.update (Function.update kd.endpointsStore old.key none) new.key (some new) =
      Function.update kd.endpointsStore new.key (some new) := by
    rw [hkey, Function.update_idem]
  cases hs : kd.servicesStore old.key with
  | none =>
    simp [KubeDNS.step, KubeDNS.handle, KubeDNS.storeUpdate, KubeDNS.handleEndpointUpdate,
      KubeDNS.handleEndpointAdd, KubeDNS.removeOldPTRRecords, KubeDNS.handleEndpointDelete,
      KubeDNS.getServiceFromEndpoints, KubeDNS.addDNSUsingEndpoints, hkey, hs, hes]
  | some svc =>
    by_cases hip : isServiceIPSet svc = true
    · -- a cluster-IP service: no handler writes
      simp [KubeDNS.step, KubeDNS.handle, KubeDNS.storeUpdate, KubeDNS.handleEndpointUpdate,
        KubeDNS.handleEndpointAdd, KubeDNS.removeOldPTRRecords, KubeDNS.handleEndpointDelete,
        KubeDNS.getServiceFromEndpoints, KubeDNS.addDNSUsingEndpoints, hkey, hs, hes, hip]
    · -- a headless service: the same subtree, and the same reverse records
      simp [KubeDNS.step, KubeDNS.handle, KubeDNS.storeUpdate, KubeDNS.handleEndpointUpdate,
        KubeDNS.handleEndpointAdd, KubeDNS.removeOldPTRRecords, KubeDNS.handleEndpointDelete,
        KubeDNS.getServiceFromEndpoints, KubeDNS.addDNSUsingEndpoints, hkey, hs, hes, hip,
        (hen svc hs).resolve_right hip, KubeDNS.generateRecordsForHeadlessService]
      refine ⟨rfl, funext fun ip => ?_⟩
      simp only [KubeDNS.headlessRecords_snd, oldAddressMap_eq, deleteHostnamedPTRs_eq]
      by_cases hn : ip ∈ hostnamedIPs new
      · -- named again with a hostname: the new reverse record either way
        obtain ⟨host, hh⟩ := Option.isSome_iff_exists.1 (lastHostname_isSome_iff.2 hn)
        simp [hh]
        rfl
      · simp [Option.not_isSome_iff_eq_none.1 (lastHostname_isSome_iff.not.2 hn), hn]

/-- `prod/db` moves its pod `db-0` from `10.1.0.7` to `10.1.0.8`. -/
theorem endpointsUpdate_eq_delete_add_db :
    let s : Service := ⟨"db", "prod", .clusterIP, "None", [], [], ""⟩
    let e : Endpoints := ⟨"db", "prod", [⟨[⟨"10.1.0.7", "db-0"⟩], []⟩]⟩
    let e' : Endpoints := ⟨"db", "prod", [⟨[⟨"10.1.0.8", "db-0"⟩], []⟩]⟩
    let kd := ((KubeDNS.newKubeDNS "cluster.local").step (.serviceAdd s)).step (.endpointsAdd e)
    e'.key = e.key ∧ kd.servicesStore e.key = some s ∧ s.type ≠ .externalName ∧
      kd.step (.endpointsUpdate e e') = (kd.step (.endpointsDelete e)).step (.endpointsAdd e') := by
  intro s e e' kd
  have hs : kd.servicesStore e.key = some s := by decide
  exact ⟨rfl, hs, by decide, endpointsUpdate_eq_delete_add kd e e' rfl fun svc h => by
    rw [hs] at h
    cases h
    exact .inl (by decide)⟩

end KubeDns
