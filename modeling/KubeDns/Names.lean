/-
# Record names and the query parser

A builder stores each record with the name `kd.fqdn(service, labels...)` it computed
(`CacheEntry.fqdn`), and SRV and reverse records carry target names made by
`generateSRVRecordValue` and `getServiceFQDN`.  `Records` reads a name the other way: it
trims the dots, splits, reverses, and looks the last label up as a leaf key under the node
the others name.  The two pipelines meet when the cluster domain does not trim to nothing
and the labels below the domain hold no dot (`split_fqdn`, `split_join_domain`).

* `records_exact_of_split`, `records_of_split`: what `Records` answers for a name that
  parses as a service's labels;
* `Named`: a leaf whose fqdn names its own place; every leaf of the subtrees
  `newPortalService` and `generateRecordsForHeadlessService` build is named
  (`portalSubCache_named`, `headlessRecords_named`);
* `portalSubCache_find_root`, `headlessRecords_find_root`: the A record a subtree holds under
  a label is that of the LAST cluster IP, or the last address, with that label;
* `newExternalNameService_records`, `newPortalService_targets`,
  `generateRecordsForHeadlessService_targets`: the CNAME leaf comes back from its name, and
  the SRV and reverse targets resolve to the A records they designate when no two cluster
  IPs share a hash label and addresses that share a name share an IP;
* `records_round_trip` assembles them: right after a builder ran, every record it left in
  the cache comes back from `Records(fqdn, true)`, and every target resolves;
* `duplicate_hostname_record_shadowed`: a record that a later write of the same build
  replaces does not come back; Endpoints with two addresses of one hostname are enough.
-/
import KubeDns.Federation

namespace KubeDns

/-- The labels of a service that end up in record names hold no dot: its name, its
namespace, and the names and protocols of its ports. -/
structure DotFreeService (s : Service) : Prop where
  name : '.' ∉ s.name.data
  «namespace» : '.' ∉ s.namespace.data
  ports : ∀ p ∈ s.ports, '.' ∉ p.name.data ∧ '.' ∉ p.protocol.data

/-- The hostnames, port names and port protocols of an endpoints object hold no dot. -/
structure DotFreeEndpoints (e : Endpoints) : Prop where
  hostnames : ∀ a ∈ addresses e, '.' ∉ a.hostname.data
  ports : ∀ subset ∈ e.subsets, ∀ p ∈ subset.ports, '.' ∉ p.name.data ∧ '.' ∉ p.protocol.data

theorem dot_not_mem_srvLabels {protocol name : String} (hp : '.' ∉ protocol.data)
    (hn : '.' ∉ name.data) : ∀ l ∈ srvLabels protocol name, '.' ∉ l.data := by
  simp only [srvLabels, List.mem_cons, List.mem_singleton, List.not_mem_nil, or_false]
  rintro l (rfl | rfl) <;> simp [Strings.dot_not_mem_toLower hp, hn]

namespace KubeDNS

/-! ## 1. Names and their labels -/

/-- A name `x.y...` ending in the domain: the domain's dot-trimmed form ends it. -/
theorem getLast_join_trimmed {A : List String} (hA : A ≠ []) {t : String}
    (ht : (Strings.trimRight t '.').data ≠ []) :
    (Strings.join (A ++ [Strings.trimRight t '.']) '.').data.getLast? ≠ some '.' := by
  obtain ⟨b, hb⟩ := Option.ne_none_iff_exists'.1 (mt List.getLast?_eq_none_iff.1 ht)
  have hb' : b ≠ '.' := fun h => Strings.trimRight_getLast t '.' (h ▸ hb)
  rw [Strings.join_append_singleton hA]
  simp [List.getLast?_append, List.getLast?_cons, hb, hb']

/-- **The names `fqdn` builds parse back** into the labels below the service's node. -/
theorem split_fqdn (kd : KubeDNS) (svc : Service) (ls : List String)
    (hdom : (Strings.trimRight kd.domain '.').data ≠ [])
    (hsvc : '.' ∉ svc.namespace.data ∧ '.' ∉ svc.name.data) (hls : ∀ l ∈ ls, '.' ∉ l.data) :
    Strings.split (Strings.trimRight (kd.fqdn svc ls) '.') '.' =
      (kd.domainPath ++ [serviceSubdomain, svc.namespace, svc.name] ++ ls).reverse := by
  have hA : ∀ a ∈ ls.reverse ++ [svc.name, svc.namespace, serviceSubdomain], '.' ∉ a.data := by
    intro a ha
    simp only [List.mem_append, List.mem_reverse, List.mem_cons, List.mem_singleton,
      List.not_mem_nil, or_false] at ha
    rcases ha with h | h | h | h
    · exact hls a h
    · exact h ▸ hsvc.2
    · exact h ▸ hsvc.1
    · exact h ▸ by decide
  have hAne : ls.reverse ++ [svc.name, svc.namespace, serviceSubdomain] ≠ [] := by simp
  have hlast := getLast_join_trimmed hAne hdom
  have hrev : (kd.domainPath ++ [serviceSubdomain, svc.namespace, svc.name] ++ ls).reverse =
      ls.reverse ++ [svc.name, svc.namespace, serviceSubdomain] ++
        Strings.split (Strings.trimRight kd.domain '.') '.' := by
    simp [domainPath_reverse]
  rw [fqdn, reverseArray_eq_reverse, hrev, Strings.join_append_split hAne,
    Dns.fqdn_of_getLast hlast, Strings.trimRight_append_char hlast,
    Strings.split_join_append_singleton hA]

/-- A target name `labels.domain` parses back into its labels and the domain's. -/
theorem split_join_domain (kd : KubeDNS) {A : List String} (hA : ∀ a ∈ A, '.' ∉ a.data)
    (hAne : A ≠ []) (hdom : (Strings.trimRight kd.domain '.').data ≠ []) :
    Strings.split (Strings.trimRight (Strings.join (A ++ [kd.domain]) '.') '.') '.' =
      A ++ Strings.split (Strings.trimRight kd.domain '.') '.' := by
  have hjoin : ∀ t, Strings.join (A ++ [t]) '.' = Strings.join A '.' ++ ⟨['.']⟩ ++ t := fun t =>
    String.ext (by simp [Strings.join_append_singleton hAne])
  rw [hjoin, Strings.trimRight_append hdom, ← hjoin, Strings.split_join_append_singleton hA]

/-- The host of an SRV value: the labels, innermost first, before the service's name. -/
theorem generateSRVRecordValue_host (kd : KubeDNS) (svc : Service) (port : Int)
    (labels : List String) :
    (kd.generateSRVRecordValue svc port labels).host =
      Strings.join (labels.reverse ++ [svc.name, svc.namespace, serviceSubdomain, kd.domain]) '.' := by
  suffices h : ∀ (B : List String), B ≠ [] →
      labels.foldl (fun host l => l ++ "." ++ host) (Strings.join B '.') =
        Strings.join (labels.reverse ++ B) '.' by
    simp [generateSRVRecordValue, newServiceRecord, h _ (List.cons_ne_nil _ _)]
  induction labels with
  | nil => simp
  | cons l rest ih =>
    intro B hB
    rw [List.foldl_cons, show l ++ "." ++ Strings.join B '.' = Strings.join (l :: B) '.' from
      (Strings.join_cons hB l '.').symm, ih _ (List.cons_ne_nil _ _)]
    simp

/-! ## 2. What `Records` answers for such names -/

/-- An exact query whose labels run from the domain through `"svc"` to the leaf key `k`
looks `k` up under the node the other labels name. -/
theorem records_exact_of_split {kd : KubeDNS} {nodeList : NodeList} {name k : String}
    {P : List String} (hsplit : Strings.split (Strings.trimRight name '.') '.' = (P ++ [k]).reverse)
    (hsvc : (P ++ [k])[kd.domainPath.length]? = some serviceSubdomain) (hk : k ≠ "") :
    (kd.records nodeList name true).1 =
      (kd.cache.getEntry k P).elim (.error (.error .keyNotFound)) fun r => .ok [r] := by
  have hne : P ++ [k] ≠ [] := by simp
  have hpod : kd.isPodRecord (P ++ [k]) = pure false := by
    rw [isPodRecord_eq, hsvc]
    simp [show serviceSubdomain ≠ podSubdomain by decide]
  have hget : kd.getRecordsForPath (P ++ [k]) true =
      (kd.cache.getEntry k P).elim (throw (.error .keyNotFound)) fun r => pure [r] := by
    rw [getRecordsForPath, hpod, pure_bind]
    simp only [Bool.false_eq_true, if_false, if_true, index_last hne, pure_bind,
      List.getLast_concat, hk, sliceTo_last hne, List.dropLast_concat]
    cases kd.cache.getEntry k P <;> rfl
  cases h : kd.cache.getEntry k P <;>
    simp [records, localLookup, hsplit, reverseArray_eq_reverse, hget, h, pure, Except.pure]

/-- A non-exact query of a service's own name lists everything at and below its node. -/
theorem records_of_split {kd : KubeDNS} {nodeList : NodeList} {name : String}
    {P : List String} (hsplit : Strings.split (Strings.trimRight name '.') '.' = P.reverse)
    (hsvc : P[kd.domainPath.length]? = some serviceSubdomain)
    (hlen : P.length ≠ 4 + kd.domainPath.length) :
    (kd.records nodeList name false).1 =
      if kd.cache.getValuesForPathWithWildcards P = [] then .error (.error .keyNotFound)
      else .ok (kd.cache.getValuesForPathWithWildcards P) := by
  have hfed : kd.isFederationQuery P.reverse = pure false := by
    unfold isFederationQuery
    rw [if_pos (by simpa using hlen)]
  have hpod : kd.isPodRecord P = pure false := by
    rw [isPodRecord_eq, hsvc]
    simp [show serviceSubdomain ≠ podSubdomain by decide]
  simp [records, localLookup, hsplit, hfed, reverseArray_eq_reverse, getRecordsForPath, hpod,
    pure, Except.pure]

/-! ## 3. Leaves that name their place -/

/-- A leaf below a service's node whose fqdn names its place, with a key and labels that
`Records` reads back. -/
def Named (kd : KubeDNS) (s : Service) (x : CacheEntry) : Prop :=
  x.fqdn = kd.fqdn s (x.path ++ [x.key]) ∧ x.key ≠ "" ∧ ∀ l ∈ x.path ++ [x.key], '.' ∉ l.data

theorem forall_mem_setEntry {P : CacheEntry → Prop} {c : TreeCache}
    (hc : ∀ x ∈ c.entries, P x) {key : String} {val : SkyService} {fqdn : String}
    {path : List String} (hnew : P ⟨path, key, val, fqdn⟩) :
    ∀ x ∈ (c.setEntry key val fqdn path).entries, P x := by
  intro x hx
  simp only [TreeCache.setEntry, List.mem_cons, List.mem_filter] at hx
  rcases hx with rfl | ⟨hx, -⟩
  exacts [hnew, hc x hx]

theorem named_root {kd : KubeDNS} {s : Service} {key : String} {val : SkyService}
    (hk : key ≠ "") (hd : '.' ∉ key.data) : kd.Named s ⟨[], key, val, kd.fqdn s [key]⟩ :=
  ⟨rfl, hk, by simpa using hd⟩

theorem named_srv {kd : KubeDNS} {s : Service} {protocol name key : String} {val : SkyService}
    (hp : '.' ∉ protocol.data) (hn : '.' ∉ name.data) (hk : key ≠ "") (hd : '.' ∉ key.data) :
    kd.Named s ⟨srvLabels protocol name, key, val,
      kd.fqdn s (srvLabels protocol name ++ [key])⟩ := by
  refine ⟨rfl, hk, fun l hl => ?_⟩
  rcases List.mem_append.1 hl with hl | hl
  · exact dot_not_mem_srvLabels hp hn l hl
  · exact (List.mem_singleton.1 hl) ▸ hd

/-- Every leaf of the subtree `newPortalService` builds names its place. -/
theorem portalSubCache_named (kd : KubeDNS) {s : Service} (hs : DotFreeService s) :
    ∀ x ∈ (kd.portalSubCache s).entries, kd.Named s x := by
  unfold portalSubCache
  refine List.foldlRecOn (motive := fun c : TreeCache => ∀ x ∈ c.entries, kd.Named s x) _ _ _
    (by simp [TreeCache.newTreeCache]) fun c hc ip _ => ?_
  have hl := getSkyMsg_label_ne ip 0
  have hd := dot_not_mem_getSkyMsg_label ip 0
  refine List.foldlRecOn (motive := fun c : TreeCache => ∀ x ∈ c.entries, kd.Named s x) _ _ _
    (forall_mem_setEntry hc (named_root hl hd)) fun c hc p hp => ?_
  unfold portalPortRecords
  split_ifs
  · exact hc
  · exact forall_mem_setEntry hc (named_srv (hs.ports p hp).2 (hs.ports p hp).1 hl hd)

/-- The name of an endpoint address is a label: its hostname, or its hash label. -/
theorem endpointName_label {a : EndpointAddress} (h : '.' ∉ a.hostname.data) :
    endpointName a ≠ "" ∧ '.' ∉ (endpointName a).data := by
  unfold endpointName getHostname
  split_ifs with hl
  · exact ⟨fun h0 => by simp only [Option.getD_some] at h0; simp [h0] at hl, h⟩
  · exact ⟨getSkyMsg_label_ne _ _, dot_not_mem_getSkyMsg_label _ _⟩

theorem headlessAddressRecords_fst (kd : KubeDNS) (svc : Service) (ports : List EndpointPort)
    (acc : HeadlessAcc) (a : EndpointAddress) :
    (kd.headlessAddressRecords svc ports acc a).1 =
      ports.foldl (kd.headlessPortRecords svc (endpointName a))
        (acc.1.setEntry (endpointName a) (getSkyMsg a.ip 0).1 (kd.fqdn svc [endpointName a]) []) := by
  unfold headlessAddressRecords
  split <;> rfl

/-- Every leaf of the subtree `generateRecordsForHeadlessService` builds names its place. -/
theorem headlessRecords_named (kd : KubeDNS) (svc : Service) {e : Endpoints}
    (he : DotFreeEndpoints e) : ∀ x ∈ (kd.headlessRecords e svc).1.entries, kd.Named svc x := by
  unfold headlessRecords
  refine List.foldlRecOn (motive := fun acc : HeadlessAcc => ∀ x ∈ acc.1.entries, kd.Named svc x)
    _ _ _ (by simp [TreeCache.newTreeCache]) fun acc hacc ss hss => ?_
  refine List.foldlRecOn (motive := fun acc : HeadlessAcc => ∀ x ∈ acc.1.entries, kd.Named svc x)
    _ _ _ hacc fun acc hacc a ha => ?_
  obtain ⟨hl, hd⟩ := endpointName_label (he.hostnames a (List.mem_flatMap.2 ⟨ss, hss, ha⟩))
  rw [headlessAddressRecords_fst]
  refine List.foldlRecOn (motive := fun c : TreeCache => ∀ x ∈ c.entries, kd.Named svc x) _ _ _
    (forall_mem_setEntry hacc (named_root hl hd)) fun c hc p hp => ?_
  unfold headlessPortRecords
  split_ifs
  · exact forall_mem_setEntry hc
      (named_srv (he.ports ss hss p hp).2 (he.ports ss hss p hp).1 hl hd)
  · exact hc

/-! ## 4. The leaves at a service's own node -/

/-- A loop whose body leaves the root of a subtree alone leaves it alone. -/
theorem foldl_find_root {α : Type} {f : TreeCache → α → TreeCache}
    (hf : ∀ c a k, (f c a).find [] k = c.find [] k) (l : List α) (c : TreeCache) (k : String) :
    (l.foldl f c).find [] k = c.find [] k := by
  induction l generalizing c with
  | nil => rfl
  | cons a l ih => rw [List.foldl_cons, ih, hf]

theorem portalPortRecords_find_root (kd : KubeDNS) (s : Service) (label : String) :
    ∀ c p k, (kd.portalPortRecords s label c p).find [] k = c.find [] k := by
  intro c p k
  unfold portalPortRecords
  split_ifs <;> simp [srvLabels]

theorem headlessPortRecords_find_root (kd : KubeDNS) (svc : Service) (name : String) :
    ∀ c p k, (kd.headlessPortRecords svc name c p).find [] k = c.find [] k := by
  intro c p k
  unfold headlessPortRecords
  split_ifs <;> simp [srvLabels]

/-- At the root of the portal subtree, a hash label holds the A record of the last cluster
IP with that label. -/
theorem portalSubCache_find_root (kd : KubeDNS) (s : Service) (k : String) :
    ((kd.portalSubCache s).find [] k).map CacheEntry.value =
      ((getClusterIPs s).reverse.find? fun ip => (getSkyMsg ip 0).2 == k).map
        fun ip => (getSkyMsg ip 0).1 := by
  unfold portalSubCache
  induction getClusterIPs s using List.reverseRecOn with
  | nil => rfl
  | append_singleton ips ip ih =>
    have hp := foldl_find_root (portalPortRecords_find_root kd s (getSkyMsg ip 0).2)
    rcases eq_or_ne (getSkyMsg ip 0).2 k with rfl | h
    · simp [portalIPRecords, hp]
    · simp [portalIPRecords, hp, h, Ne.symm h, ih]

/-- The root leaves the addresses of one subset leave, over what was there. -/
theorem headlessAddresses_find_root (kd : KubeDNS) (svc : Service) (ports : List EndpointPort)
    (as : List EndpointAddress) (acc : HeadlessAcc) (k : String) :
    ((as.foldl (kd.headlessAddressRecords svc ports) acc).1.find [] k).map CacheEntry.value =
      ((as.reverse.find? fun a => endpointName a == k).map fun a => (getSkyMsg a.ip 0).1).or
        ((acc.1.find [] k).map CacheEntry.value) := by
  induction as using List.reverseRecOn with
  | nil => simp
  | append_singleton as a ih =>
    have hp := foldl_find_root (headlessPortRecords_find_root kd svc (endpointName a))
    rcases eq_or_ne (endpointName a) k with rfl | h
    · simp [headlessAddressRecords_fst, hp]
    · simp [headlessAddressRecords_fst, hp, h, Ne.symm h, ih]

/-- At the root of the headless subtree, a name holds the A record of the last address with
that name. -/
theorem headlessRecords_find_root (kd : KubeDNS) (e : Endpoints) (svc : Service) (k : String) :
    ((kd.headlessRecords e svc).1.find [] k).map CacheEntry.value =
      ((addresses e).reverse.find? fun a => endpointName a == k).map
        fun a => (getSkyMsg a.ip 0).1 := by
  unfold headlessRecords addresses
  induction e.subsets using List.reverseRecOn with
  | nil => rfl
  | append_singleton ss sub ih =>
    simp [headlessAddresses_find_root, ih, Option.map_or']

/-! ## 5. From the builders to `Records` -/

theorem getEntry_of_mem {c : TreeCache} {x : CacheEntry} (hx : x ∈ c.entries) :
    c.getEntry x.key x.path = some x.value := by
  simp [TreeCache.getEntry, TreeCache.mem_iff_find.1 hx]

theorem mem_of_getEntry {c : TreeCache} {k : String} {p : List String} {v : SkyService}
    (h : c.getEntry k p = some v) : ∃ x ∈ c.entries, x.value = v := by
  obtain ⟨x, hx, rfl⟩ := Option.map_eq_some'.1 h
  exact ⟨x, (TreeCache.find_eq_some_iff.1 hx).1, rfl⟩

/-- Below the node a subtree was swapped in at, the cache answers as the subtree. -/
theorem getEntry_setSubCache (c sub : TreeCache) (key : String) (path rest : List String)
    (k : String) :
    (c.setSubCache key sub path).getEntry k (path ++ key :: rest) = sub.getEntry k rest := by
  have hpre : (path ++ [key]).isPrefixOf (path ++ key :: rest) = true :=
    List.isPrefixOf_iff_prefix.2 ⟨rest, by simp⟩
  simp [TreeCache.getEntry, hpre, Option.map_map, Function.comp_def, CacheEntry.prepend]

theorem matchesPath_append (p rest : List String) : TreeCache.matchesPath p (p ++ rest) = true := by
  induction p with
  | nil => rfl
  | cons q p ih => simp [TreeCache.matchesPath, ih]

/-- A non-exact query of the node a subtree was swapped in at lists every value of the
subtree. -/
theorem mem_getValues_setSubCache {c sub : TreeCache} {key : String} {path : List String}
    {x : CacheEntry} (hx : x ∈ sub.entries) :
    x.value ∈ (c.setSubCache key sub path).getValuesForPathWithWildcards (path ++ [key]) := by
  refine List.mem_map.2 ⟨x.prepend (path ++ [key]), (List.perm_insertionSort _ _).mem_iff.2 ?_, rfl⟩
  exact List.mem_filter.2 ⟨List.mem_append_left _ (List.mem_map_of_mem _ hx), matchesPath_append _ _⟩

/-- The last element with an element's label carries its payload, when elements that share
a label share the payload. -/
theorem find?_reverse_map {α β γ : Type} [DecidableEq β] {f : α → β} {g : α → γ} {l : List α}
    (hl : ∀ y ∈ l, ∀ x ∈ l, f y = f x → g y = g x) {x : α} (hx : x ∈ l) :
    (l.reverse.find? fun y => f y == f x).map g = some (g x) := by
  cases h : l.reverse.find? fun y => f y == f x with
  | none => exact absurd (List.find?_eq_none.1 h x (List.mem_reverse.2 hx)) (by simp)
  | some y =>
    have hfy : f y = f x := by simpa using List.find?_some h
    exact congrArg some (hl y (List.mem_reverse.1 (List.mem_of_find?_eq_some h)) x hx hfy)

theorem portalSubCache_getEntry (kd : KubeDNS) {s : Service}
    (hinj : ∀ ip ∈ getClusterIPs s, ∀ ip' ∈ getClusterIPs s,
      (getSkyMsg ip 0).2 = (getSkyMsg ip' 0).2 → ip = ip') {ip : String}
    (hip : ip ∈ getClusterIPs s) :
    (kd.portalSubCache s).getEntry (getSkyMsg ip 0).2 [] = some (getSkyMsg ip 0).1 := by
  rw [TreeCache.getEntry, portalSubCache_find_root]
  exact find?_reverse_map (fun y hy x hx h => congrArg _ (hinj y hy x hx h)) hip

theorem headlessRecords_getEntry (kd : KubeDNS) (svc : Service) {e : Endpoints}
    (hinj : ∀ a ∈ addresses e, ∀ a' ∈ addresses e, endpointName a = endpointName a' → a.ip = a'.ip)
    {a : EndpointAddress} (ha : a ∈ addresses e) :
    (kd.headlessRecords e svc).1.getEntry (endpointName a) [] = some (getSkyMsg a.ip 0).1 := by
  rw [TreeCache.getEntry, headlessRecords_find_root]
  exact find?_reverse_map
    (fun y hy x hx h => congrArg (fun ip => (getSkyMsg ip 0).1) (hinj y hy x hx h)) ha

theorem getClusterIPs_ne_nil (s : Service) : getClusterIPs s ≠ [] := by
  unfold getClusterIPs
  split_ifs with h
  · exact List.ne_nil_of_length_pos h
  · exact List.cons_ne_nil _ _

/-- The label after the domain in a name below a namespace's node is `"svc"`. -/
theorem namespacePath_getElem? (kd : KubeDNS) (ns : String) (rest : List String) :
    (kd.namespacePath ns ++ rest)[kd.domainPath.length]? = some serviceSubdomain := by
  rw [namespacePath, List.append_assoc, List.getElem?_append_right (le_refl _), Nat.sub_self]
  rfl

theorem dot_not_mem_serviceLabels {s : Service} (hs : DotFreeService s) :
    ∀ a ∈ [s.name, s.namespace, serviceSubdomain], '.' ∉ a.data := by
  simp only [List.mem_cons, List.mem_singleton, List.not_mem_nil, or_false]
  rintro a (rfl | rfl | rfl)
  exacts [hs.name, hs.namespace, by decide]

/-- A named leaf of a subtree swapped in at a service's node comes back from an exact query
of its fqdn. -/
theorem records_named {kd : KubeDNS} (kd' : KubeDNS) {s : Service} {sub : TreeCache} {x : CacheEntry}
    (hdom : (Strings.trimRight kd.domain '.').data ≠ []) (hs : DotFreeService s)
    (hd : kd'.domain = kd.domain)
    (hc : kd'.cache = kd.cache.setSubCache s.name sub (kd.namespacePath s.namespace))
    (hx : x ∈ sub.entries) (hn : kd.Named s x) (nodeList : NodeList) :
    (kd'.records nodeList x.fqdn true).1 = .ok [x.value] := by
  obtain ⟨hf, hk, hl⟩ := hn
  have hdp : kd'.domainPath = kd.domainPath := by simp only [domainPath, hd]
  have hsplit := split_fqdn kd s _ hdom ⟨hs.namespace, hs.name⟩ hl
  rw [show kd.domainPath ++ [serviceSubdomain, s.namespace, s.name] ++ (x.path ++ [x.key]) =
      kd.namespacePath s.namespace ++ s.name :: x.path ++ [x.key] by simp [namespacePath],
    ← hf] at hsplit
  have hsvc : (kd.namespacePath s.namespace ++ s.name :: x.path ++ [x.key])[kd'.domainPath.length]? =
      some serviceSubdomain := by
    rw [hdp, List.append_assoc]
    exact namespacePath_getElem? _ _ _
  rw [records_exact_of_split hsplit hsvc hk, hc, getEntry_setSubCache, getEntry_of_mem hx]
  rfl

/-! ## 6. The builders' records and targets -/

/-- The CNAME leaf of an ExternalName service comes back from its fqdn. -/
theorem newExternalNameService_records (kd : KubeDNS)
    (hdom : (Strings.trimRight kd.domain '.').data ≠ []) {s : Service} (hs : DotFreeService s)
    (hn : s.name ≠ "") (nodeList : NodeList) :
    ((kd.newExternalNameService s).records nodeList (kd.fqdn s []) true).1 =
      .ok [(getSkyMsg s.externalName 0).1] := by
  have hsplit := kd.split_fqdn s [] hdom ⟨hs.namespace, hs.name⟩ (by simp)
  rw [show kd.domainPath ++ [serviceSubdomain, s.namespace, s.name] ++ [] =
    kd.namespacePath s.namespace ++ [s.name] by simp [namespacePath]] at hsplit
  rw [@records_exact_of_split (kd.newExternalNameService s) nodeList _ _ _ hsplit
    (kd.namespacePath_getElem? _ _) hn]
  simp [newExternalNameService, TreeCache.getEntry]

/-- The targets of a portal service's reverse and SRV records name the service, and listing
that name gives the A record of every cluster IP. -/
theorem newPortalService_targets (kd : KubeDNS)
    (hdom : (Strings.trimRight kd.domain '.').data ≠ []) {s : Service} (hs : DotFreeService s)
    (hinj : ∀ ip ∈ getClusterIPs s, ∀ ip' ∈ getClusterIPs s,
      (getSkyMsg ip 0).2 = (getSkyMsg ip' 0).2 → ip = ip')
    (nodeList : NodeList) {t : String}
    (ht : t = (kd.clusterIPPTR s).host ∨ ∃ port, t = (kd.generateSRVRecordValue s port []).host) :
    ∃ rs, ((kd.newPortalService s).records nodeList t false).1 = .ok rs ∧
      ∀ ip ∈ getClusterIPs s, (getSkyMsg ip 0).1 ∈ rs := by
  have hhost : t = Strings.join ([s.name, s.namespace, serviceSubdomain] ++ [kd.domain]) '.' := by
    rcases ht with rfl | ⟨port, rfl⟩
    · simp [clusterIPPTR, getServiceFQDN, newServiceRecord]
    · simp [generateSRVRecordValue_host]
  have hsplit : Strings.split (Strings.trimRight t '.') '.' =
      (kd.namespacePath s.namespace ++ [s.name]).reverse := by
    rw [hhost, kd.split_join_domain (dot_not_mem_serviceLabels hs) (by simp) hdom]
    simp [namespacePath, domainPath_reverse]
  have hvals : ∀ ip ∈ getClusterIPs s, (getSkyMsg ip 0).1 ∈
      (kd.newPortalService s).cache.getValuesForPathWithWildcards
        (kd.namespacePath s.namespace ++ [s.name]) := fun ip hip => by
    obtain ⟨x, hx, hv⟩ := mem_of_getEntry (kd.portalSubCache_getEntry hinj hip)
    exact hv ▸ mem_getValues_setSubCache hx
  obtain ⟨ip₀, hip₀⟩ := List.exists_mem_of_ne_nil _ (getClusterIPs_ne_nil s)
  have hdp : (kd.newPortalService s).domainPath = kd.domainPath := rfl
  refine ⟨_, ?_, hvals⟩
  rw [records_of_split hsplit (hdp ▸ kd.namespacePath_getElem? _ _)
    (by simp [hdp, namespacePath]; omega), if_neg (List.ne_nil_of_mem (hvals ip₀ hip₀))]

/-- The targets of a headless endpoint's reverse and SRV records name the endpoint below
the service, and that name answers the endpoint's A record. -/
theorem generateRecordsForHeadlessService_targets (kd : KubeDNS)
    (hdom : (Strings.trimRight kd.domain '.').data ≠ []) {s : Service} (hs : DotFreeService s)
    {e : Endpoints} (he : DotFreeEndpoints e)
    (hinj : ∀ a ∈ addresses e, ∀ a' ∈ addresses e, endpointName a = endpointName a' → a.ip = a'.ip)
    {a : EndpointAddress} (ha : a ∈ addresses e) (nodeList : NodeList) {t : String}
    (ht : (∃ h, getHostname a = some h ∧ t = (kd.headlessPTR s h).host) ∨
      ∃ port, t = (kd.generateSRVRecordValue s port [endpointName a]).host) :
    ((kd.generateRecordsForHeadlessService e s).records nodeList t true).1 =
      .ok [(getSkyMsg a.ip 0).1] := by
  obtain ⟨hk, hd⟩ := endpointName_label (he.hostnames a ha)
  have hsplit : Strings.split (Strings.trimRight t '.') '.' =
      (kd.namespacePath s.namespace ++ [s.name] ++ [endpointName a]).reverse := by
    rcases ht with ⟨h, hh, rfl⟩ | ⟨port, rfl⟩
    · -- the reverse record: `kd.fqdn(svc, hostname)`
      obtain rfl : endpointName a = h := by simp [endpointName, hh]
      rw [show (kd.headlessPTR s (endpointName a)).host = kd.fqdn s [endpointName a] from rfl,
        kd.split_fqdn s _ hdom ⟨hs.namespace, hs.name⟩ (by simpa using hd)]
      simp [namespacePath]
    · -- an SRV record: `name.svc.ns.svc.domain`
      have hA : ∀ l ∈ endpointName a :: [s.name, s.namespace, serviceSubdomain], '.' ∉ l.data :=
        List.forall_mem_cons.2 ⟨hd, dot_not_mem_serviceLabels hs⟩
      rw [generateSRVRecordValue_host, List.reverse_singleton,
        show [endpointName a] ++ [s.name, s.namespace, serviceSubdomain, kd.domain] =
          endpointName a :: [s.name, s.namespace, serviceSubdomain] ++ [kd.domain] from rfl,
        kd.split_join_domain hA (by simp) hdom]
      simp [namespacePath, domainPath_reverse]
  have hdp : (kd.generateRecordsForHeadlessService e s).domainPath = kd.domainPath := rfl
  rw [records_exact_of_split hsplit
    (by rw [hdp, List.append_assoc]; exact kd.namespacePath_getElem? _ _) hk]
  simp only [generateRecordsForHeadlessService, getEntry_setSubCache,
    kd.headlessRecords_getEntry s hinj ha, Option.elim_some]

end KubeDNS

/-- **Records come back from their names.**  For a cluster domain that does not trim to
nothing and a service whose labels hold no dot, right after a builder installed the
service's records:

* every record `newPortalService` or `generateRecordsForHeadlessService` left in the cache
  comes back as exactly itself from `Records(fqdn, true)` of the fqdn it was stored with,
  and so does the CNAME of `newExternalNameService`;
* the target of the cluster-IP reverse record and of every SRV record of a portal service
  lists the A record of every cluster IP, when no two cluster IPs share a hash label;
* the target of the reverse record and of every SRV record of a headless endpoint answers
  that endpoint's A record, when addresses that share a name share an IP. -/
theorem records_round_trip (kd : KubeDNS) (hdom : (Strings.trimRight kd.domain '.').data ≠ [])
    (s : Service) (hs : DotFreeService s) (nodeList : NodeList) :
    (∀ x ∈ (kd.portalSubCache s).entries,
      ((kd.newPortalService s).records nodeList x.fqdn true).1 = .ok [x.value]) ∧
    (s.name ≠ "" → ((kd.newExternalNameService s).records nodeList (kd.fqdn s []) true).1 =
      .ok [(getSkyMsg s.externalName 0).1]) ∧
    ((∀ ip ∈ getClusterIPs s, ∀ ip' ∈ getClusterIPs s,
        (getSkyMsg ip 0).2 = (getSkyMsg ip' 0).2 → ip = ip') →
      ∀ t, (t = (kd.clusterIPPTR s).host ∨ ∃ port, t = (kd.generateSRVRecordValue s port []).host) →
      ∃ rs, ((kd.newPortalService s).records nodeList t false).1 = .ok rs ∧
        ∀ ip ∈ getClusterIPs s, (getSkyMsg ip 0).1 ∈ rs) ∧
    ∀ e, DotFreeEndpoints e →
      (∀ x ∈ (kd.headlessRecords e s).1.entries,
        ((kd.generateRecordsForHeadlessService e s).records nodeList x.fqdn true).1 =
          .ok [x.value]) ∧
      ((∀ a ∈ addresses e, ∀ a' ∈ addresses e,
          KubeDNS.endpointName a = KubeDNS.endpointName a' → a.ip = a'.ip) →
        ∀ a ∈ addresses e, ∀ t,
          ((∃ h, getHostname a = some h ∧ t = (kd.headlessPTR s h).host) ∨
            ∃ port, t = (kd.generateSRVRecordValue s port [KubeDNS.endpointName a]).host) →
          ((kd.generateRecordsForHeadlessService e s).records nodeList t true).1 =
            .ok [(getSkyMsg a.ip 0).1]) := by
  refine ⟨fun x hx => KubeDNS.records_named (kd.newPortalService s) hdom hs rfl rfl hx
    (kd.portalSubCache_named hs x hx) nodeList,
    fun hn => kd.newExternalNameService_records hdom hs hn nodeList,
    fun hinj _ ht => kd.newPortalService_targets hdom hs hinj nodeList ht, fun e he => ⟨?_, ?_⟩⟩
  · exact fun x hx => KubeDNS.records_named (kd.generateRecordsForHeadlessService e s) hdom hs
      rfl rfl hx (kd.headlessRecords_named s he x hx) nodeList
  · exact fun hinj a ha _ ht =>
      kd.generateRecordsForHeadlessService_targets hdom hs he hinj ha nodeList ht

/-- The service `prod/web` with one cluster IP and one named port. -/
theorem records_round_trip_web :
    let kd := KubeDNS.newKubeDNS "cluster.local"
    let s : Service := ⟨"web", "prod", .clusterIP, "10.0.0.5", [], [⟨"http", "TCP", 80⟩], ""⟩
    (Strings.trimRight kd.domain '.').data ≠ [] ∧ DotFreeService s ∧
      ∀ x ∈ (kd.portalSubCache s).entries,
        ((kd.newPortalService s).records (.ok []) x.fqdn true).1 = .ok [x.value] := by
  intro kd s
  have hdom : (Strings.trimRight kd.domain '.').data ≠ [] := by decide
  have hs : DotFreeService s := ⟨by decide, by decide, by decide⟩
  exact ⟨hdom, hs, (records_round_trip kd hdom s hs (.ok [])).1⟩

/-- **A record a later write replaces.**  The Endpoints of the headless service `prod/db`
name two addresses with the hostname `db-0`, so both A records go to one leaf: the address
loop stores the first under the name `db-0.db.prod.svc.cluster.local.`, and after the
Endpoints are added that name answers the second alone. -/
theorem duplicate_hostname_record_shadowed :
    let s : Service := ⟨"db", "prod", .clusterIP, "None", [], [], ""⟩
    let a₁ : EndpointAddress := ⟨"10.1.0.7", "db-0"⟩
    let e : Endpoints := ⟨"db", "prod", [⟨[a₁, ⟨"10.1.0.8", "db-0"⟩], []⟩]⟩
    let kd := ((KubeDNS.newKubeDNS "cluster.local").step (.serviceAdd s)).step (.endpointsAdd e)
    let f := kd.fqdn s ["db-0"]
    (kd.headlessAddressRecords s [] (TreeCache.newTreeCache, fun _ => none) a₁).1.find [] "db-0" =
        some ⟨[], "db-0", (getSkyMsg "10.1.0.7" 0).1, f⟩ ∧
      (kd.records (.ok []) f true).1 = .ok [(getSkyMsg "10.1.0.8" 0).1] ∧
      (getSkyMsg "10.1.0.7" 0).1 ≠ (getSkyMsg "10.1.0.8" 0).1 := by
  intro s a₁ e kd f
  decide

end KubeDns
