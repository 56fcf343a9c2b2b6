/-
# Federation queries in every state of a run

`recordsForFederation` answers a federation query `s.ns.f.svc.<domain>` with the local
CNAME when one local record passes `isValidLocalRecord`, and redirects it through
`federationRecords` otherwise.  `records_federation_rewrite` gives both answers from the
cache's local records; this file says, for every state of a valid run and a cluster-IP
service, which one the query gets.

The local records are the values of the service's slot (`SlotHolds.mem_getValues`).  A
record passes `isValidLocalRecord` when its Host is not a key of the cluster IP index, or is
the cluster IP of a service with Endpoints.  Without a named port the slot holds the A
records of the cluster IPs only (`portalSubCache_values`), whose Hosts the index maps to
the service; a named port adds an SRV record whose Host is the service's name
(`portalSubCache_srv`), which the index does not hold.  Hence:

* `reachable_federation_answer`: without a named port, the query is answered locally
  exactly when the service's Endpoints are stored with a subset, and redirected otherwise;
* `reachable_federation_named_port_local`: with a named port, it is answered locally
  whatever the Endpoints, so `records_federation_local_without_endpoints` is no corner of
  one configuration but holds of every such service in every state.
-/
import KubeDns.Answers

namespace KubeDns

/-! ## 1. Labels -/

/-- An RFC 1123 label holds no dot. -/
theorem dot_not_mem_of_dns1123LabelFmt {l : List Char} (h : dns1123LabelFmt l = true) :
    '.' ∉ l := by
  intro hd
  unfold dns1123LabelFmt at h
  split at h
  · have := List.all_eq_true.1 (Bool.and_eq_true_iff.1 h).2 '.' hd
    revert this
    decide
  · cases h

/-- `*` is not an RFC 1123 label. -/
theorem ne_star_of_dns1123LabelFmt {l : String} (h : dns1123LabelFmt l.data = true) : l ≠ "*" := by
  rintro rfl
  revert h
  decide

theorem dns1123LabelFmt_of_isDNS1123Label {l : String} (h : isDNS1123Label l = true) :
    dns1123LabelFmt l.data = true :=
  (Bool.and_eq_true_iff.1 h).2

theorem dns1123LabelFmt_of_isDNS1035Label {l : String} (h : isDNS1035Label l = true) :
    dns1123LabelFmt l.data = true :=
  (Bool.and_eq_true_iff.1 (Bool.and_eq_true_iff.1 h).1).2

/-! ## 2. The records of a portal service -/

namespace KubeDNS

variable {kd : KubeDNS} {s : Service}

/-- Without a named port, the SRV loop of a cluster IP writes nothing. -/
theorem foldl_portalPortRecords_unnamed (hports : ∀ p ∈ s.ports, p.name = "" ∨ p.protocol = "")
    (label : String) (c : TreeCache) : s.ports.foldl (kd.portalPortRecords s label) c = c := by
  suffices ∀ ps : List ServicePort, (∀ p ∈ ps, p.name = "" ∨ p.protocol = "") →
      ps.foldl (kd.portalPortRecords s label) c = c from this _ hports
  intro ps hps
  induction ps with
  | nil => rfl
  | cons p ps ih =>
    rw [List.foldl_cons, portalPortRecords, if_pos (hps p (List.mem_cons_self _ _))]
    exact ih fun q hq => hps q (List.mem_cons_of_mem _ hq)

/-- Without a named port, the slot holds A records of the cluster IPs only, and at least
one. -/
theorem portalSubCache_values (hports : ∀ p ∈ s.ports, p.name = "" ∨ p.protocol = "") :
    (∀ x ∈ (kd.portalSubCache s).entries, ∃ ip ∈ getClusterIPs s, x.value = (getSkyMsg ip 0).1) ∧
      (kd.portalSubCache s).entries ≠ [] := by
  have hip : ∀ c ip, kd.portalIPRecords s c ip =
      c.setEntry (getSkyMsg ip 0).2 (getSkyMsg ip 0).1 (kd.fqdn s [(getSkyMsg ip 0).2]) [] :=
    fun c ip => foldl_portalPortRecords_unnamed hports _ _
  constructor
  · unfold portalSubCache
    refine List.foldlRecOn (motive := fun c : TreeCache =>
      ∀ x ∈ c.entries, ∃ ip ∈ getClusterIPs s, x.value = (getSkyMsg ip 0).1) _ _ _
      (by simp [TreeCache.newTreeCache]) fun c hc ip hmem => ?_
    rw [hip]
    intro x hx
    simp only [TreeCache.setEntry, List.mem_cons, List.mem_filter] at hx
    rcases hx with rfl | ⟨hx, -⟩
    exacts [⟨ip, hmem, rfl⟩, hc x hx]
  · -- the last cluster IP's A record is written last
    rw [portalSubCache, ← List.dropLast_append_getLast (getClusterIPs_ne_nil s), List.foldl_append,
      List.foldl_cons, List.foldl_nil, hip]
    exact List.cons_ne_nil _ _

/-- The SRV loop of a cluster IP keeps a leaf whose Host is the service's name, and writes
one at a named port. -/
theorem exists_srv_foldl_portalPortRecords (label : String) (ps : List ServicePort) (c : TreeCache)
    (h : (∃ x ∈ c.entries, x.value.host = getServiceFQDN kd.domain s) ∨
      ∃ p ∈ ps, p.name ≠ "" ∧ p.protocol ≠ "") :
    ∃ x ∈ (ps.foldl (kd.portalPortRecords s label) c).entries,
      x.value.host = getServiceFQDN kd.domain s := by
  induction ps generalizing c with
  | nil => simpa using h
  | cons p ps ih =>
    apply ih
    rw [portalPortRecords]
    split_ifs with hp
    · -- an unnamed port: the named one is further on
      refine h.imp_right fun ⟨q, hq, hn⟩ => ⟨q, ?_, hn⟩
      rcases List.mem_cons.1 hq with rfl | hq
      exacts [absurd hp (not_or.2 hn), hq]
    · exact .inl ⟨_, List.mem_cons_self _ _, rfl⟩

/-- A named port puts a leaf whose Host is the service's name in the slot: the SRV record
of the last cluster IP. -/
theorem portalSubCache_srv (hport : ∃ p ∈ s.ports, p.name ≠ "" ∧ p.protocol ≠ "") :
    ∃ x ∈ (kd.portalSubCache s).entries, x.value.host = getServiceFQDN kd.domain s := by
  rw [portalSubCache, ← List.dropLast_append_getLast (getClusterIPs_ne_nil s), List.foldl_append,
    List.foldl_cons, List.foldl_nil, portalIPRecords]
  exact exists_srv_foldl_portalPortRecords _ _ _ (.inr hport)

/-- A record whose Host is no key of the cluster IP index passes as a headless one. -/
theorem isValidLocalRecord_of_index {r : SkyService} (h : kd.clusterIPServiceMap r.host = none) :
    kd.isValidLocalRecord r = true := by
  simp [isValidLocalRecord, isHeadlessServiceRecord, h]

/-- Once one local record passes, the federation answer is the CNAME
`s.ns.svc.<dot-trimmed domain>.`. -/
theorem recordsForFederation_local {nodeList : NodeList} {rs : List SkyService}
    {ns name : String} {fs : List String} (hdom : (Strings.trimRight kd.domain '.').data ≠ [])
    (hany : rs.any kd.isValidLocalRecord = true) :
    kd.recordsForFederation nodeList rs (kd.domainPath ++ [serviceSubdomain, ns, name]) false fs =
      (.ok [hostRecord (name ++ "." ++ ns ++ ".svc." ++ Strings.trimRight kd.domain '.' ++ ".")],
        kd.nodesStore) := by
  have hlast : (name ++ "." ++ ns ++ ".svc." ++ Strings.trimRight kd.domain '.').data.getLast? ≠
      some '.' := by
    rw [String.data_append, List.getLast?_append_of_ne_nil _ hdom]
    exact Strings.trimRight_getLast kd.domain '.'
  rw [recordsForFederation, if_pos hany, join_localPath]
  simp only [Strings.hasSuffix_dot_of_getLast hlast, Bool.false_eq_true, if_false]

end KubeDNS

/-! ## 3. Which answer a federation query gets -/

section FederationQuery

variable {kd : KubeDNS} (h : Reachable kd) (hdom : (Strings.trimRight kd.domain '.').data ≠ [])
  (hstar : "*" ∉ kd.domainPath) {cfg : Config} {f d : String} (hcfg : kd.config = some cfg)
  (hd : cfg.federations.lookup f = some d) {s : Service} (hs : kd.servicesStore s.key = some s)
  (hname : isDNS1035Label s.name = true) (hns : isDNS1123Label s.namespace = true)
  (hf : isDNS1123Label f = true)
include h hdom hstar hcfg hd hs hname hns hf

/-- The federation query of a stored service whose subtree the stores call for takes the
federation branch, with the values of the subtree as its local records. -/
theorem localLookup_federation_slot {sub : TreeCache} (hsub : kd.expectedSubtree s = some sub) :
    let segments := Strings.split (Strings.trimRight
      (Strings.join [s.name, s.namespace, f, serviceSubdomain, kd.domain] '.') '.') '.'
    ∃ rs, (∀ r, r ∈ rs ↔ ∃ x ∈ sub.entries, x.value = r) ∧
      kd.localLookup segments false =
        .ok (some segments, kd.domainPath ++ [serviceSubdomain, s.namespace, s.name], rs) := by
  intro segments
  have hname' := dns1123LabelFmt_of_isDNS1035Label hname
  have hns' := dns1123LabelFmt_of_isDNS1123Label hns
  -- the query's labels, and the federation test on them
  have hsplit : segments = [s.name, s.namespace, f, serviceSubdomain] ++
      Strings.split (Strings.trimRight kd.domain '.') '.' :=
    KubeDNS.split_join_domain kd (A := [s.name, s.namespace, f, serviceSubdomain])
      (by simp only [List.mem_cons, List.mem_singleton, List.not_mem_nil, or_false]
          rintro a (rfl | rfl | rfl | rfl)
          exacts [dot_not_mem_of_dns1123LabelFmt hname', dot_not_mem_of_dns1123LabelFmt hns',
            dot_not_mem_of_dns1123LabelFmt (dns1123LabelFmt_of_isDNS1123Label hf), by decide])
      (List.cons_ne_nil _ _) hdom
  have hseg : segments = [s.name, s.namespace, f, serviceSubdomain] ++ kd.domainPath.reverse := by
    rw [hsplit, KubeDNS.domainPath_reverse]
  have hfed : kd.isFederationQuery _ = .ok true := (KubeDNS.isFederationQuery_eq_ok_true kd _).2
    ⟨_, _, _, hseg, hname, hns, hf, cfg, hcfg, by simp [hd]⟩
  -- the local records are the slot's values
  have hq : "*" ∉ kd.namespacePath s.namespace ++ [s.name] := by
    simp [KubeDNS.namespacePath, hstar, Ne.symm (ne_star_of_dns1123LabelFmt hname'),
      Ne.symm (ne_star_of_dns1123LabelFmt hns'), serviceSubdomain]
  have hmem := (h.cacheAgrees.slot s hs).mem_getValues hsub hq
  simp only [KubeDNS.namespacePath, List.append_assoc, List.cons_append, List.singleton_append,
    List.nil_append] at hmem
  exact ⟨_, hmem, KubeDNS.localLookup_federation hseg hfed⟩

/-- **A federation query of a cluster-IP service without named ports is answered locally
exactly when the service has Endpoints.**  In every state of a valid run with a configured
federation `f ↦ d`, for a stored cluster-IP service with no named port and the query
`s.ns.f.svc.<domain>` that `isFederationQuery` accepts: `Records` answers the local CNAME
`s.ns.svc.<domain>.` when the service's Endpoints are stored with a subset, and otherwise
what `federationRecords` answers, the redirect to the federation. -/
theorem reachable_federation_answer (hen : s.type ≠ .externalName) (hip : isServiceIPSet s = true)
    (hports : ∀ p ∈ s.ports, p.name = "" ∨ p.protocol = "") (nodeList : NodeList) :
    let name := Strings.join [s.name, s.namespace, f, serviceSubdomain, kd.domain] '.'
    ((∃ e, kd.endpointsStore s.key = some e ∧ e.subsets ≠ []) →
      kd.records nodeList name false =
        (.ok [hostRecord (s.name ++ "." ++ s.namespace ++ ".svc." ++
          Strings.trimRight kd.domain '.' ++ ".")], kd.nodesStore)) ∧
    ((¬∃ e, kd.endpointsStore s.key = some e ∧ e.subsets ≠ []) →
      kd.records nodeList name false =
        kd.federationRecords nodeList (reverseArray (Strings.split (Strings.trimRight name '.') '.'))) := by
  intro name
  obtain ⟨rs, hrs, hlook⟩ := localLookup_federation_slot h hdom hstar hcfg hd hs hname hns hf
    (KubeDNS.expectedSubtree_portal hen hip)
  rw [KubeDNS.records_of_localLookup hlook]
  obtain ⟨hvals, hne⟩ := @KubeDNS.portalSubCache_values kd s hports
  -- every local record is an A record of a cluster IP, which the index maps to `s`
  have hvalid : ∀ r ∈ rs,
      kd.isValidLocalRecord r = true ↔ ∃ e, kd.endpointsStore s.key = some e ∧ e.subsets ≠ [] := by
    intro r hr
    obtain ⟨x, hx, rfl⟩ := (hrs r).1 hr
    obtain ⟨ip, hipmem, hval⟩ := hvals x hx
    rw [hval]
    exact KubeDNS.isValidLocalRecord_iff_endpoints (h.serviceIndexAgrees s.key ip s
      (KubeDNS.expectedService_eq_some.2 ⟨hs, hen, hip, hipmem⟩))
  have hany : rs.any kd.isValidLocalRecord = true ↔
      ∃ e, kd.endpointsStore s.key = some e ∧ e.subsets ≠ [] := by
    obtain ⟨x, hx⟩ := List.exists_mem_of_ne_nil _ hne
    have hr := (hrs x.value).2 ⟨x, hx, rfl⟩
    rw [List.any_eq_true]
    exact ⟨fun ⟨r, hr', hv⟩ => (hvalid r hr').1 hv, fun he => ⟨_, hr, (hvalid _ hr).2 he⟩⟩
  refine ⟨fun he => KubeDNS.recordsForFederation_local hdom (hany.2 he), fun he => ?_⟩
  rw [KubeDNS.recordsForFederation, if_neg (by rw [hany]; exact he)]
  rfl

/-- **A federation query of a cluster-IP service with a named port is answered locally,
whatever its Endpoints.**  In every state of a valid run, for a stored cluster-IP service
with a port that has both a name and a protocol, and whose name `s.ns.svc.<domain>` is no
key of the cluster IP index (no cluster IP is spelt as a service name): the query
`s.ns.f.svc.<domain>` gets the local CNAME, also when no Endpoints object is stored. -/
theorem reachable_federation_named_port_local (hen : s.type ≠ .externalName)
    (hip : isServiceIPSet s = true) (hport : ∃ p ∈ s.ports, p.name ≠ "" ∧ p.protocol ≠ "")
    (hindex : kd.clusterIPServiceMap (getServiceFQDN kd.domain s) = none) (nodeList : NodeList) :
    kd.records nodeList (Strings.join [s.name, s.namespace, f, serviceSubdomain, kd.domain] '.') false =
      (.ok [hostRecord (s.name ++ "." ++ s.namespace ++ ".svc." ++
        Strings.trimRight kd.domain '.' ++ ".")], kd.nodesStore) := by
  obtain ⟨rs, hrs, hlook⟩ := localLookup_federation_slot h hdom hstar hcfg hd hs hname hns hf
    (KubeDNS.expectedSubtree_portal hen hip)
  obtain ⟨x, hx, hhost⟩ := @KubeDNS.portalSubCache_srv kd s hport
  -- the SRV record passes as a headless one
  have hvalid : kd.isValidLocalRecord x.value = true :=
    KubeDNS.isValidLocalRecord_of_index (by rw [hhost]; exact hindex)
  rw [KubeDNS.records_of_localLookup hlook, KubeDNS.recordsForFederation_local hdom
    (List.any_eq_true.2 ⟨_, (hrs x.value).2 ⟨x, hx, rfl⟩, hvalid⟩)]

end FederationQuery

/-- A cluster-IP service `web/prod` without ports or Endpoints, federation `fed`: the query
`web.prod.fed.svc.cluster.local` is redirected. -/
theorem reachable_federation_answer_web :
    let s : Service := ⟨"web", "prod", .clusterIP, "10.0.0.5", [], [], ""⟩
    let kd : KubeDNS := { (KubeDNS.newKubeDNS "cluster.local").step (.serviceAdd s) with
      config := some ⟨[("fed", "example.com")], []⟩, nodesStore := [] }
    let name := Strings.join [s.name, s.namespace, "fed", serviceSubdomain, kd.domain] '.'
    Reachable kd ∧ kd.endpointsStore s.key = none ∧
      kd.records (.ok []) name false =
        kd.federationRecords (.ok []) (reverseArray (Strings.split (Strings.trimRight name '.') '.')) := by
  intro s kd name
  have hr : Reachable kd := .offInformer _ _ (reachable_serviceAdd _ s)
  have hs : kd.servicesStore s.key = some s := by decide
  have he : kd.endpointsStore s.key = none := rfl
  exact ⟨hr, he, (reachable_federation_answer hr (by decide) (by decide) rfl
    (rfl : [("fed", "example.com")].lookup "fed" = some "example.com") hs (by decide) (by decide)
    (by decide) (by decide) rfl (by simp) (.ok [])).2 fun ⟨e, he', _⟩ => by
      rw [he] at he'; cases he'⟩

/-- A cluster-IP service `mysvc/ns` with the port `http/TCP` and no Endpoints, federation
`myfed`: the query `mysvc.ns.myfed.svc.cluster.local` gets the local CNAME. -/
theorem reachable_federation_named_port_local_mysvc :
    let s : Service := ⟨"mysvc", "ns", .clusterIP, "10.0.0.1", [], [⟨"http", "TCP", 80⟩], ""⟩
    let kd : KubeDNS := { (KubeDNS.newKubeDNS "cluster.local").step (.serviceAdd s) with
      config := some ⟨[("myfed", "example.com")], []⟩, nodesStore := [] }
    Reachable kd ∧ kd.endpointsStore s.key = none ∧
      kd.records (.ok []) (Strings.join [s.name, s.namespace, "myfed", serviceSubdomain, kd.domain] '.')
        false = (.ok [hostRecord "mysvc.ns.svc.cluster.local."], []) := by
  intro s kd
  have hr : Reachable kd := .offInformer _ _ (reachable_serviceAdd _ s)
  have hs : kd.servicesStore s.key = some s := by decide
  exact ⟨hr, rfl, reachable_federation_named_port_local hr (by decide) (by decide) rfl
    (rfl : [("myfed", "example.com")].lookup "myfed" = some "example.com") hs (by decide)
    (by decide) (by decide) (by decide) rfl ⟨_, List.mem_singleton_self _, by decide, by decide⟩
    (by decide) (.ok [])⟩

end KubeDns
