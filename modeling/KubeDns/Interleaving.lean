/-
# Orders of events

The services and the endpoints informers call their handlers from two goroutines, so the
events of two objects reach the engine in either order; and `updateService` rewrites a
service's records in place ("Remove old cache path only if changing type to/from
ExternalName. In all other cases, we'll update records in place."), where a delete and an
add would remove them first.  An event concerning the key `ns/n` reads, besides the objects
it carries, only the domain and the two stores at `ns/n` (`ReadsAlike`); it writes only the
stores at `ns/n`, the slot of `ns/n` and the IPs it touches (`step_writes_only_its_slot`).
As for any two operations on disjoint places, the two orders then end alike:

* `step_find_congr`, `step_sameAt_congr`: what a step leaves at a cache place, or at an
  IP, depends only on what was there and on what the event reads;
* `readsAlike_step_of_ne`: a step leaves what an event of another key reads as it was;
* `answer_congr`: a reader sees the state through its fields and the cache through `find`;
* `events_commute`: two events concerning different keys, whose IPs are apart, lead in
  either order to the same stores and IP maps, to caches that find alike, and so to the
  same answer to every query.  Its IP condition cannot be dropped: when the Endpoints of
  two headless services name one IP with a hostname, the reverse record of the IP is the
  one written last, and the two differ (`shared_ip_reverse_order`);
* `serviceUpdate_eq_delete_add`: in every reachable state, the update in place leaves the
  same stores, a cache that finds alike and the same forward answers as the delete and the
  add, unless the new object is a headless service without stored Endpoints; the IP maps
  agree outside the old object's cluster IPs, where the update keeps the old records
  (`reverseRecordMap_keeps_dropped_clusterIP`);
* `reachable_records_determined`: two runs that end in the same stores, no headless
  service waiting for its Endpoints, give the same forward answers.
-/
import KubeDns.EndpointsRuns

namespace KubeDns

/-- An event concerning `key` delivers the key `key`. -/
theorem Event.Concerns.key_eq {ev : Event} {key : ObjectKey} (hc : ev.Concerns key) :
    ev.key = key := by
  cases ev <;> first | exact hc | exact hc.2

namespace KubeDNS

/-! ## 1. What each handler reads -/

/-- `kd'` looks like `kd` to an event concerning `key`: the same domain and the same stored
objects under `key`. -/
structure ReadsAlike (key : ObjectKey) (kd kd' : KubeDNS) : Prop where
  domain : kd'.domain = kd.domain
  servicesStore : kd'.servicesStore key = kd.servicesStore key
  endpointsStore : kd'.endpointsStore key = kd.endpointsStore key

theorem fqdn_congr {kd kd' : KubeDNS} (h : kd'.domain = kd.domain) : kd'.fqdn = kd.fqdn := by
  funext s sub
  rw [fqdn, domainPath_congr h, fqdn]

variable {kd kd' : KubeDNS} {p : List String} {k ip : String}

/-- `newService` reads the domain and the Endpoints stored under the service's key. -/
theorem newService_find_congr {s : Service} (hd : kd'.domain = kd.domain)
    (he : kd'.endpointsStore s.key = kd.endpointsStore s.key)
    (hf : kd'.cache.find p k = kd.cache.find p k) :
    (kd'.newService s).cache.find p k = (kd.newService s).cache.find p k := by
  unfold newService newExternalNameService newHeadlessService newPortalService
    generateRecordsForHeadlessService
  rw [he, portalSubCache_domain kd', headlessRecords_domain kd', namespacePath_congr hd,
    fqdn_congr hd, hd, ← portalSubCache_domain, ← headlessRecords_domain]
  split_ifs
  · simp only [TreeCache.find_setEntry, hf]
  · split <;> simp only [TreeCache.find_setSubCache, hf]
  · simp only [TreeCache.find_setSubCache, hf]

theorem newService_sameAt_congr {s : Service} (hd : kd'.domain = kd.domain)
    (he : kd'.endpointsStore s.key = kd.endpointsStore s.key) (h : SameAt kd kd' ip) :
    SameAt (kd.newService s) (kd'.newService s) ip := by
  unfold newService newExternalNameService newHeadlessService newPortalService
    generateRecordsForHeadlessService
  rw [he, headlessRecords_domain kd', hd, ← headlessRecords_domain]
  split_ifs
  · exact h
  · split
    · exact ⟨by simp only [h.1], h.2⟩
    · exact h
  · simp only [SameAt, h.1, h.2, and_self]

/-- `removeService` reads only the domain. -/
theorem removeService_find_congr {s : Service} (hd : kd'.domain = kd.domain)
    (hf : kd'.cache.find p k = kd.cache.find p k) :
    (kd'.removeService s).cache.find p k = (kd.removeService s).cache.find p k := by
  have hc : ∀ kd : KubeDNS, (kd.removeService s).cache =
      (kd.cache.deletePath (kd.namespacePath s.namespace ++ [s.name])).1 := fun kd => by
    unfold removeService
    split_ifs <;> simp [namespacePath]
  rw [hc, hc, namespacePath_congr hd, TreeCache.find_deletePath, TreeCache.find_deletePath, hf]

theorem removeService_sameAt_congr {s : Service} (h : SameAt kd kd' ip) :
    SameAt (kd.removeService s) (kd'.removeService s) ip := by
  unfold removeService
  split_ifs <;> simp only [SameAt, h.1, h.2, and_self]

/-- `addDNSUsingEndpoints` reads the domain and the service stored under the Endpoints'
key. -/
theorem addDNSUsingEndpoints_find_congr {e : Endpoints} (hd : kd'.domain = kd.domain)
    (hs : kd'.servicesStore e.key = kd.servicesStore e.key)
    (hf : kd'.cache.find p k = kd.cache.find p k) :
    (kd'.addDNSUsingEndpoints e).cache.find p k = (kd.addDNSUsingEndpoints e).cache.find p k := by
  unfold addDNSUsingEndpoints getServiceFromEndpoints generateRecordsForHeadlessService
  rw [hs, headlessRecords_domain kd', namespacePath_congr hd, hd, ← headlessRecords_domain]
  split
  · split_ifs
    · exact hf
    · simp only [TreeCache.find_setSubCache, hf]
  · exact hf

theorem addDNSUsingEndpoints_sameAt_congr {e : Endpoints} (hd : kd'.domain = kd.domain)
    (hs : kd'.servicesStore e.key = kd.servicesStore e.key) (h : SameAt kd kd' ip) :
    SameAt (kd.addDNSUsingEndpoints e) (kd'.addDNSUsingEndpoints e) ip := by
  unfold addDNSUsingEndpoints getServiceFromEndpoints generateRecordsForHeadlessService
  rw [hs, headlessRecords_domain kd', hd, ← headlessRecords_domain]
  split
  · split_ifs
    · exact h
    · exact ⟨by simp only [h.1], h.2⟩
  · exact h

/-- The two loops that delete reverse records read only the service stored under the
Endpoints' key; neither writes the cache (`removeOldPTRRecords_cache`,
`handleEndpointDelete_cache`). -/
theorem removeOldPTRRecords_sameAt_congr {old new : Endpoints}
    (hs : kd'.servicesStore old.key = kd.servicesStore old.key) (h : SameAt kd kd' ip) :
    SameAt (kd.removeOldPTRRecords old new) (kd'.removeOldPTRRecords old new) ip := by
  unfold removeOldPTRRecords getServiceFromEndpoints
  rw [hs]
  split
  · split_ifs
    · exact ⟨by simp only [h.1], h.2⟩
    · exact h
  · exact h

theorem handleEndpointDelete_sameAt_congr {e : Endpoints}
    (hs : kd'.servicesStore e.key = kd.servicesStore e.key) (h : SameAt kd kd' ip) :
    SameAt (kd.handleEndpointDelete e) (kd'.handleEndpointDelete e) ip := by
  unfold handleEndpointDelete getServiceFromEndpoints
  rw [hs]
  split
  · split_ifs
    · exact ⟨by simp only [deleteHostnamedPTRs_eq, h.1], h.2⟩
    · exact h
  · exact h

/-! ## 2. What a step reads -/

/-- The informer's store write keeps two states alike at every key. -/
theorem ReadsAlike.storeUpdate {key : ObjectKey} (h : ReadsAlike key kd kd') (ev : Event) :
    ReadsAlike key (kd.storeUpdate ev) (kd'.storeUpdate ev) := by
  refine ⟨by rw [storeUpdate_domain, storeUpdate_domain, h.domain], ?_, ?_⟩ <;> cases ev <;>
    simp only [KubeDNS.storeUpdate, Function.update_apply, h.servicesStore, h.endpointsStore]

theorem ReadsAlike.frame {key : ObjectKey} (h : ReadsAlike key kd kd') {kd₁ kd₁' : KubeDNS}
    (f : Frame kd kd₁) (f' : Frame kd' kd₁') : ReadsAlike key kd₁ kd₁' :=
  ⟨by rw [f.domain, f'.domain, h.domain],
    by rw [f.servicesStore, f'.servicesStore, h.servicesStore],
    by rw [f.endpointsStore, f'.endpointsStore, h.endpointsStore]⟩

theorem ReadsAlike.step {key : ObjectKey} (h : ReadsAlike key kd kd') (ev : Event) :
    ReadsAlike key (kd.step ev) (kd'.step ev) :=
  (h.storeUpdate ev).frame (frame_handle _ ev) (frame_handle _ ev)

/-- What a handler leaves at a cache place, or at an IP, depends only on what was there
and on what the event reads. -/
theorem handle_congr {ev : Event} {key : ObjectKey} (hc : ev.Concerns key)
    (h : ReadsAlike key kd kd') (p : List String) (k ip : String) :
    (kd'.cache.find p k = kd.cache.find p k →
      (kd'.handle ev).cache.find p k = (kd.handle ev).cache.find p k) ∧
    (SameAt kd kd' ip → SameAt (kd.handle ev) (kd'.handle ev) ip) := by
  cases ev with
  | serviceAdd s =>
    cases hc
    exact ⟨newService_find_congr h.domain h.endpointsStore,
      newService_sameAt_congr h.domain h.endpointsStore⟩
  | serviceUpdate old new =>
    obtain ⟨-, rfl⟩ := hc
    simp only [handle, updateService]
    split_ifs
    · have h₁ := h.frame (frame_removeService kd old) (frame_removeService kd' old)
      exact ⟨fun hf => newService_find_congr h₁.domain h₁.endpointsStore
          (removeService_find_congr h.domain hf),
        fun hs => newService_sameAt_congr h₁.domain h₁.endpointsStore
          (removeService_sameAt_congr hs)⟩
    · exact ⟨newService_find_congr h.domain h.endpointsStore,
        newService_sameAt_congr h.domain h.endpointsStore⟩
  | serviceDelete s => exact ⟨removeService_find_congr h.domain, removeService_sameAt_congr⟩
  | endpointsAdd e =>
    cases hc
    exact ⟨addDNSUsingEndpoints_find_congr h.domain h.servicesStore,
      addDNSUsingEndpoints_sameAt_congr h.domain h.servicesStore⟩
  | endpointsUpdate old new =>
    obtain ⟨rfl, hn⟩ := hc
    have h₁ := h.frame (frame_removeOldPTRRecords kd old new)
      (frame_removeOldPTRRecords kd' old new)
    exact ⟨fun hf => addDNSUsingEndpoints_find_congr h₁.domain (hn ▸ h₁.servicesStore)
        (by rw [removeOldPTRRecords_cache, removeOldPTRRecords_cache, hf]),
      fun hs => addDNSUsingEndpoints_sameAt_congr h₁.domain (hn ▸ h₁.servicesStore)
        (removeOldPTRRecords_sameAt_congr h.servicesStore hs)⟩
  | endpointsDelete e =>
    cases hc
    exact ⟨fun hf => by
        rw [handle, handle, handleEndpointDelete_cache, handleEndpointDelete_cache, hf],
      handleEndpointDelete_sameAt_congr h.servicesStore⟩

/-- What a step leaves at a cache place depends only on what was there and on what the
event reads. -/
theorem step_find_congr {ev : Event} {key : ObjectKey} (hc : ev.Concerns key)
    (h : ReadsAlike key kd kd') (hf : kd'.cache.find p k = kd.cache.find p k) :
    (kd'.step ev).cache.find p k = (kd.step ev).cache.find p k :=
  (handle_congr hc (h.storeUpdate ev) p k "").1 (by cases ev <;> exact hf)

theorem step_sameAt_congr {ev : Event} {key : ObjectKey} (hc : ev.Concerns key)
    (h : ReadsAlike key kd kd') (hs : SameAt kd kd' ip) :
    SameAt (kd.step ev) (kd'.step ev) ip :=
  (handle_congr hc (h.storeUpdate ev) [] "" ip).2 (by cases ev <;> exact hs)

/-- A step leaves alone what an event concerning another key reads. -/
theorem readsAlike_step_of_ne {ev : Event} {key key' : ObjectKey} (hc : ev.Concerns key')
    (hne : key ≠ key') : ReadsAlike key kd (kd.step ev) :=
  ⟨step_domain kd ev,
    by rw [step_servicesStore, storeUpdate_servicesStore_of_ne _ (hc.key_eq ▸ hne)],
    by rw [step_endpointsStore, storeUpdate_endpointsStore_of_ne _ (hc.key_eq ▸ hne)]⟩

/-- The IPs an event touches are read from the Endpoints stored under its key. -/
theorem touchedIPs_congr {ev : Event} {key : ObjectKey} (hc : ev.Concerns key)
    (h : kd'.endpointsStore key = kd.endpointsStore key) :
    ev.touchedIPs kd' = ev.touchedIPs kd := by
  cases ev with
  | serviceAdd s | serviceDelete s => cases hc; simp only [Event.touchedIPs, h]
  | serviceUpdate old new => obtain ⟨-, rfl⟩ := hc; simp only [Event.touchedIPs, h]
  | _ => rfl

/-! ## 3. The two orders -/

section Commute

variable {ev₁ ev₂ : Event} {key₁ key₂ : ObjectKey} (h₁ : ev₁.Concerns key₁)
  (h₂ : ev₂.Concerns key₂) (hne : key₁ ≠ key₂)

include h₁ h₂ hne

/-- At a cache place outside the slot of the second event's key, both orders leave what
the first event leaves. -/
theorem find_step_step (hk : KeyedServices kd)
    (hout : ¬InSlot (kd.namespacePath key₂.1) key₂.2 p k) :
    ((kd.step ev₂).step ev₁).cache.find p k = ((kd.step ev₁).step ev₂).cache.find p k := by
  rw [(step_slotUpdate (hk.step ev₁) h₂).find_eq
    (by rwa [namespacePath_congr (step_domain kd ev₁)])]
  exact step_find_congr h₁ (readsAlike_step_of_ne h₂ hne) ((step_slotUpdate hk h₂).find_eq hout)

/-- At an IP the second event does not touch, both orders leave what the first event
leaves. -/
theorem sameAt_step_step (hout : ip ∉ ev₂.touchedIPs kd) :
    SameAt ((kd.step ev₁).step ev₂) ((kd.step ev₂).step ev₁) ip := by
  have hA : SameAt (kd.step ev₁) ((kd.step ev₁).step ev₂) ip :=
    step_sameAt (by rwa [touchedIPs_congr h₂ (readsAlike_step_of_ne h₁ hne.symm).endpointsStore])
  have hB := step_sameAt_congr h₁ (readsAlike_step_of_ne h₂ hne) (step_sameAt hout)
  exact ⟨hB.1.trans hA.1.symm, hB.2.trans hA.2.symm⟩

end Commute

/-- At a key other than the second event's, both orders leave the same stored objects. -/
theorem readsAlike_step_step {ev₁ ev₂ : Event} {key key₂ : ObjectKey} (h₂ : ev₂.Concerns key₂)
    (hne : key ≠ key₂) : ReadsAlike key ((kd.step ev₁).step ev₂) ((kd.step ev₂).step ev₁) := by
  have hA : ReadsAlike key (kd.step ev₁) ((kd.step ev₁).step ev₂) := readsAlike_step_of_ne h₂ hne
  have hB : ReadsAlike key (kd.step ev₁) ((kd.step ev₂).step ev₁) :=
    (readsAlike_step_of_ne h₂ hne).step ev₁
  exact ⟨hB.domain.trans hA.domain.symm, hB.servicesStore.trans hA.servicesStore.symm,
    hB.endpointsStore.trans hA.endpointsStore.symm⟩

/-- Events leave the configuration as it was. -/
theorem step_config (kd : KubeDNS) (ev : Event) : (kd.step ev).config = kd.config :=
  (frame_handle _ ev).config.trans (by cases ev <;> rfl)

/-- A reader sees the state through its fields, and the cache through `find`. -/
theorem answer_congr (hd : kd'.domain = kd.domain) (he : kd'.endpointsStore = kd.endpointsStore)
    (hs : kd'.servicesStore = kd.servicesStore) (hn : kd'.nodesStore = kd.nodesStore)
    (hr : kd'.reverseRecordMap = kd.reverseRecordMap)
    (hm : kd'.clusterIPServiceMap = kd.clusterIPServiceMap) (hcfg : kd'.config = kd.config)
    (hf : ∀ p k, kd'.cache.find p k = kd.cache.find p k) : kd'.answer = kd.answer := by
  have h : kd' = { kd with cache := kd'.cache, skyDNSConfig := kd'.skyDNSConfig } := by
    cases kd'
    cases kd
    simp_all
  rw [h]
  exact answer_cache_congr hf

/-- Adding the Endpoints of a headless service stores, at an IP its addresses name with a
hostname, the reverse record of the last such address. -/
theorem endpointsAdd_reverseRecordMap_of_lastHostname {e : Endpoints} {svc : Service}
    {h : String} (hs : kd.servicesStore e.key = some svc) (hip : isServiceIPSet svc = false)
    (hen : svc.type ≠ .externalName) (hl : lastHostname (addresses e) ip = some h) :
    (kd.step (.endpointsAdd e)).reverseRecordMap ip = some (kd.headlessPTR svc h) := by
  show ((kd.storeUpdate (.endpointsAdd e)).addDNSUsingEndpoints e).reverseRecordMap ip = _
  rw [@addDNSUsingEndpoints_of_headless (kd.storeUpdate (.endpointsAdd e)) e svc hs hip hen]
  simp only [generateRecordsForHeadlessService, headlessRecords_snd, hl, Option.map_some',
    Option.or_some]
  rfl

/-- A headless service's reverse record names the service and the address's hostname: the
record's host splits back into them (`split_fqdn`). -/
theorem headlessPTR_inj {a b : Service} {ha hb : String}
    (hdom : (Strings.trimRight kd.domain '.').data ≠ []) (hda : DotFreeService a)
    (hdb : DotFreeService b) (hha : '.' ∉ ha.data) (hhb : '.' ∉ hb.data)
    (h : kd.headlessPTR a ha = kd.headlessPTR b hb) :
    a.namespace = b.namespace ∧ a.name = b.name ∧ ha = hb := by
  have hf : kd.fqdn a [ha] = kd.fqdn b [hb] := congrArg SkyService.host h
  have hsplit := split_fqdn kd a [ha] hdom ⟨hda.namespace, hda.name⟩ (by simpa using hha)
  rw [hf, split_fqdn kd b [hb] hdom ⟨hdb.namespace, hdb.name⟩ (by simpa using hhb)] at hsplit
  simp only [List.append_assoc, List.cons_append, List.nil_append, List.reverse_inj,
    List.append_cancel_left_eq, List.cons.injEq, and_true] at hsplit
  exact ⟨hsplit.2.1.symm, hsplit.2.2.1.symm, hsplit.2.2.2.symm⟩

end KubeDNS

/-- **Events of different objects commute.**  Two events concerning different keys, of
which no IP touched by the one is touched by the other, lead from a state that keeps each
service under its own key, in either order, to the same stores and IP maps and to caches
that find alike; so every query gets the same answer from the two states. -/
theorem events_commute {kd : KubeDNS} (hk : KeyedServices kd) {ev₁ ev₂ : Event}
    {key₁ key₂ : ObjectKey} (h₁ : ev₁.Concerns key₁) (h₂ : ev₂.Concerns key₂) (hne : key₁ ≠ key₂)
    (hip : ∀ ip ∈ ev₁.touchedIPs kd, ip ∉ ev₂.touchedIPs kd) :
    let A := (kd.step ev₁).step ev₂
    let B := (kd.step ev₂).step ev₁
    A.servicesStore = B.servicesStore ∧ A.endpointsStore = B.endpointsStore ∧
      A.reverseRecordMap = B.reverseRecordMap ∧ A.clusterIPServiceMap = B.clusterIPServiceMap ∧
      (∀ p k, A.cache.find p k = B.cache.find p k) ∧ A.answer = B.answer := by
  intro A B
  have hfind : ∀ p k, B.cache.find p k = A.cache.find p k := fun p k => by
    by_cases hin : InSlot (kd.namespacePath key₂.1) key₂.2 p k
    · have hout : ¬InSlot (kd.namespacePath key₁.1) key₁.2 p k := fun h =>
        hne (Prod.ext_iff.2 (inSlot_unique kd h hin))
      exact (KubeDNS.find_step_step h₂ h₁ hne.symm hk hout).symm
    · exact KubeDNS.find_step_step h₁ h₂ hne hk hin
  have hat : ∀ ip, KubeDNS.SameAt A B ip := fun ip => by
    by_cases hin : ip ∈ ev₂.touchedIPs kd
    · have h := KubeDNS.sameAt_step_step h₂ h₁ hne.symm (hip ip · hin)
      exact ⟨h.1.symm, h.2.symm⟩
    · exact KubeDNS.sameAt_step_step h₁ h₂ hne hin
  have hstore : ∀ key, KubeDNS.ReadsAlike key A B := fun key => by
    by_cases hkey : key = key₂
    · subst hkey
      have h : KubeDNS.ReadsAlike key B A := KubeDNS.readsAlike_step_step h₁ hne.symm
      exact ⟨h.domain.symm, h.servicesStore.symm, h.endpointsStore.symm⟩
    · exact KubeDNS.readsAlike_step_step h₂ hkey
  have hs : B.servicesStore = A.servicesStore := funext fun key => (hstore key).servicesStore
  have he : B.endpointsStore = A.endpointsStore := funext fun key => (hstore key).endpointsStore
  have hr : B.reverseRecordMap = A.reverseRecordMap := funext fun ip => (hat ip).1
  have hm : B.clusterIPServiceMap = A.clusterIPServiceMap := funext fun ip => (hat ip).2
  refine ⟨hs.symm, he.symm, hr.symm, hm.symm, fun p k => (hfind p k).symm, ?_⟩
  refine (KubeDNS.answer_congr (hstore key₁).domain he hs ?_ hr hm ?_ hfind).symm
  · simp only [A, B, KubeDNS.step_nodesStore]
  · simp only [A, B, KubeDNS.step_config]

theorem events_commute_db :
    let db : Service := ⟨"db", "prod", .clusterIP, "None", [], [], ""⟩
    let web : Service := ⟨"web", "prod", .clusterIP, "10.0.0.5", [], [], ""⟩
    let e : Endpoints := ⟨"db", "prod", [⟨[⟨"10.1.0.7", "db-0"⟩], []⟩]⟩
    let kd := (KubeDNS.newKubeDNS "cluster.local").step (.serviceAdd db)
    KeyedServices kd ∧ web.key ≠ e.key ∧
      (∀ ip ∈ (Event.serviceAdd web).touchedIPs kd, ip ∉ (Event.endpointsAdd e).touchedIPs kd) ∧
      ((kd.step (.serviceAdd web)).step (.endpointsAdd e)).answer =
        ((kd.step (.endpointsAdd e)).step (.serviceAdd web)).answer := by
  intro db web e kd
  have hk : KeyedServices kd := KeyedServices.step (fun _ _ h => Option.noConfusion h) _
  have hip : ∀ ip ∈ (Event.serviceAdd web).touchedIPs kd,
      ip ∉ (Event.endpointsAdd e).touchedIPs kd := by decide
  exact ⟨hk, by decide, hip, (@events_commute kd hk (.serviceAdd web) (.endpointsAdd e) web.key
    e.key rfl rfl (by decide) hip).2.2.2.2.2⟩

/-- **Without the IP condition the order shows.**  Two headless services whose Endpoints
name one IP with a hostname each write the IP's reverse record over the other's, so
`ReverseRecord` of the IP answers for the service whose Endpoints came last; and the two
answers differ unless the services and the hostnames are the same. -/
theorem shared_ip_reverse_order {kd : KubeDNS} {a b : Service} {ea eb : Endpoints}
    {ip ha hb : String} (hsa : kd.servicesStore ea.key = some a)
    (hsb : kd.servicesStore eb.key = some b) (hipa : isServiceIPSet a = false)
    (hipb : isServiceIPSet b = false) (hena : a.type ≠ .externalName)
    (henb : b.type ≠ .externalName) (hla : lastHostname (addresses ea) ip = some ha)
    (hlb : lastHostname (addresses eb) ip = some hb)
    (hdom : (Strings.trimRight kd.domain '.').data ≠ []) (hda : DotFreeService a)
    (hdb : DotFreeService b) (hha : '.' ∉ ha.data) (hhb : '.' ∉ hb.data)
    (hab : (a.namespace, a.name, ha) ≠ (b.namespace, b.name, hb)) :
    ((kd.step (.endpointsAdd ea)).step (.endpointsAdd eb)).reverseRecord (arpaName ip) =
        .ok (kd.headlessPTR b hb) ∧
      ((kd.step (.endpointsAdd eb)).step (.endpointsAdd ea)).reverseRecord (arpaName ip) =
        .ok (kd.headlessPTR a ha) ∧
      kd.headlessPTR a ha ≠ kd.headlessPTR b hb := by
  have hlast : ∀ {e₁ e₂ : Endpoints} {s : Service} {h : String},
      kd.servicesStore e₂.key = some s → isServiceIPSet s = false → s.type ≠ .externalName →
      lastHostname (addresses e₂) ip = some h →
      ((kd.step (.endpointsAdd e₁)).step (.endpointsAdd e₂)).reverseRecord (arpaName ip) =
        .ok (kd.headlessPTR s h) := by
    intro e₁ e₂ s h hs hip hen hl
    have hs₁ := (congrFun (KubeDNS.step_servicesStore kd (.endpointsAdd e₁)) e₂.key).trans hs
    rw [KubeDNS.reverseRecord_arpaName,
      KubeDNS.endpointsAdd_reverseRecordMap_of_lastHostname hs₁ hip hen hl,
      KubeDNS.headlessPTR_congr (KubeDNS.step_domain kd _)]
  refine ⟨hlast hsb hipb henb hlb, hlast hsa hipa hena hla, fun h => hab ?_⟩
  obtain ⟨hn, hm, hh⟩ := KubeDNS.headlessPTR_inj hdom hda hdb hha hhb h
  rw [hn, hm, hh]

theorem shared_ip_reverse_order_pod :
    let a : Service := ⟨"a", "prod", .clusterIP, "None", [], [], ""⟩
    let b : Service := ⟨"b", "prod", .clusterIP, "None", [], [], ""⟩
    let ea : Endpoints := ⟨"a", "prod", [⟨[⟨"10.1.0.7", "pod-0"⟩], []⟩]⟩
    let eb : Endpoints := ⟨"b", "prod", [⟨[⟨"10.1.0.7", "pod-0"⟩], []⟩]⟩
    let kd := ((KubeDNS.newKubeDNS "cluster.local").step (.serviceAdd a)).step (.serviceAdd b)
    ((kd.step (.endpointsAdd ea)).step (.endpointsAdd eb)).reverseRecord (arpaName "10.1.0.7") =
        .ok (kd.headlessPTR b "pod-0") ∧
      ((kd.step (.endpointsAdd eb)).step (.endpointsAdd ea)).reverseRecord
        (arpaName "10.1.0.7") = .ok (kd.headlessPTR a "pod-0") ∧
      kd.headlessPTR a "pod-0" ≠ kd.headlessPTR b "pod-0" := by
  intro a b ea eb kd
  exact @shared_ip_reverse_order kd a b ea eb "10.1.0.7" "pod-0" "pod-0" rfl rfl rfl rfl
    (by decide) (by decide) rfl rfl (by decide) ⟨by decide, by decide, by decide⟩
    ⟨by decide, by decide, by decide⟩ (by decide) (by decide) (by decide)

/-! ## 4. An update in place -/

namespace KubeDNS

variable {kd : KubeDNS} {p : List String} {k ip : String}

/-- A slot whose subtree the stores name is determined by the stores. -/
theorem SlotHolds.find_eq {c c' : TreeCache} {s : Service} (h : kd.SlotHolds c s)
    (h' : kd.SlotHolds c' s) (hsub : kd.expectedSubtree s ≠ none)
    (hin : InSlot (kd.namespacePath s.namespace) s.name p k) : c'.find p k = c.find p k := by
  rcases hin with ⟨rfl, rfl⟩ | hin
  · exact h'.1.trans h.1.symm
  · obtain ⟨rest, rfl⟩ := List.isPrefixOf_iff_prefix.mp hin
    obtain ⟨sub, hsub⟩ := Option.ne_none_iff_exists'.mp hsub
    simpa using (h'.2 sub hsub rest k).trans (h.2 sub hsub rest k).symm

theorem removeService_sameAt_of_not_owned {s : Service} (h : ip ∉ ownedClusterIPs s) :
    SameAt kd (kd.removeService s) ip := by
  unfold ownedClusterIPs at h
  split_ifs at h with hip
  · exact removeService_sameAt h
  · simp [removeService, hip, SameAt]

theorem removeService_setServices (kd : KubeDNS) (f : ObjectKey → Option Service)
    (s : Service) :
    { kd with servicesStore := f }.removeService s =
      { kd.removeService s with servicesStore := f } := by
  unfold removeService
  split_ifs <;> rfl

/-- Deleting a service and adding its new object is the update's store write followed by
the removal of the old records and the writing of the new ones. -/
theorem step_serviceDelete_serviceAdd {old new : Service} (hkey : new.key = old.key) :
    (kd.step (.serviceDelete old)).step (.serviceAdd new) =
      ((kd.storeUpdate (.serviceUpdate old new)).removeService old).newService new := by
  simp only [step, handle, storeUpdate, removeService_setServices]
  rw [hkey, Function.update_idem]

/-- The caches of the two ways agree in every reachable state: outside the service's slot
both leave the cache as it was, and inside it both hold what the stores call for. -/
theorem serviceUpdate_find_eq (h : Reachable kd) {old new : Service}
    (hs : kd.servicesStore old.key = some old) (hkey : new.key = old.key)
    (hsub : kd.expectedSubtree new ≠ none) :
    (kd.step (.serviceUpdate old new)).cache.find p k =
      ((kd.step (.serviceDelete old)).step (.serviceAdd new)).cache.find p k := by
  have hk := h.keyed
  have hns : new.namespace = old.namespace := congrArg Prod.fst hkey
  have hn : new.name = old.name := congrArg Prod.snd hkey
  have hU := step_slotUpdate hk
    (show (Event.serviceUpdate old new).Concerns (old.namespace, old.name) from ⟨rfl, hkey⟩)
  have hD₁ := step_slotUpdate hk
    (show (Event.serviceDelete old).Concerns (old.namespace, old.name) from rfl)
  have hD₂ := step_slotUpdate (hk.step (.serviceDelete old))
    (show (Event.serviceAdd new).Concerns (old.namespace, old.name) from hkey)
  rw [namespacePath_congr (step_domain kd _)] at hD₂
  by_cases hin : InSlot (kd.namespacePath old.namespace) old.name p k
  · -- the slot holds, in both, what the stores call for
    have hdel : (kd.step (.serviceDelete old)).servicesStore new.key = none := by
      simp [storeUpdate, hkey]
    have hU' := (h.cacheAgrees.step (show (Event.serviceUpdate old new).Valid kd from
      ⟨hs, hkey⟩) hk).slot new (by simp [storeUpdate])
    have hD' := ((h.cacheAgrees.step (show (Event.serviceDelete old).Valid kd from hs) hk).step
      (show (Event.serviceAdd new).Valid _ from hdel) (hk.step _)).slot new (by simp [storeUpdate])
    have hdD : ((kd.step (.serviceDelete old)).step (.serviceAdd new)).domain = kd.domain := by
      simp only [step_domain]
    rw [slotHolds_congr (step_domain kd _) (expectedSubtree_congr (step_domain kd _)
      (by simp [storeUpdate]))] at hU'
    rw [slotHolds_congr hdD (expectedSubtree_congr hdD (by simp [storeUpdate]))] at hD'
    exact SlotHolds.find_eq hD' hU' hsub (by rwa [hns, hn])
  · rw [hU.find_eq hin, (hD₁.trans hD₂).find_eq hin]

/-- Outside the old object's cluster IPs the two ways write the same IP map entries: the
delete removes only those, and the add writes what the update writes. -/
theorem serviceUpdate_sameAt {old new : Service} (hkey : new.key = old.key)
    (hip : ip ∉ ownedClusterIPs old) :
    SameAt (kd.step (.serviceUpdate old new))
      ((kd.step (.serviceDelete old)).step (.serviceAdd new)) ip := by
  rw [step_serviceDelete_serviceAdd hkey]
  show SameAt ((kd.storeUpdate (.serviceUpdate old new)).updateService old new) _ ip
  unfold updateService
  split_ifs
  · exact ⟨rfl, rfl⟩
  · have hf := frame_removeService (kd.storeUpdate (.serviceUpdate old new)) old
    exact newService_sameAt_congr hf.domain (congrFun hf.endpointsStore _)
      (removeService_sameAt_of_not_owned hip)

theorem isFederationQuery_congr {kd' : KubeDNS} (hd : kd'.domain = kd.domain)
    (hcfg : kd'.config = kd.config) : kd'.isFederationQuery = kd.isFederationQuery := by
  funext path
  rw [isFederationQuery, isFederationQuery, federations, federations, domainPath_congr hd, hcfg]

/-- Outside the federation branch, `Records` sees the domain, the configuration, the node
store, and the cache through `find`. -/
theorem answer_records_congr {kd' : KubeDNS} (hd : kd'.domain = kd.domain)
    (hcfg : kd'.config = kd.config) (hn : kd'.nodesStore = kd.nodesStore)
    (hf : ∀ p k, kd'.cache.find p k = kd.cache.find p k) {nodeList : NodeList} {name : String}
    {exact : Bool} (hlocal : exact = true ∨
      kd.isFederationQuery (Strings.split (Strings.trimRight name '.') '.') ≠ .ok true) :
    kd'.answer nodeList (.records name exact) = kd.answer nodeList (.records name exact) := by
  have h : kd'.records nodeList name exact =
      ({ kd with cache := kd'.cache } : KubeDNS).records nodeList name exact :=
    @records_congr { kd with cache := kd'.cache } kd' rfl hd hcfg hn _ _ _ hlocal
  show (kd'.records nodeList name exact).1 = _
  rw [h]
  exact congrFun (congrFun (answer_cache_congr hf) nodeList) (.records name exact)

end KubeDNS

/-- **An update in place is a delete and an add.**  In every reachable state, the update
of a stored service that `updateService` makes in place leaves the same stores as deleting
the service and adding the new object, a cache that finds alike, and so the same answer to
every forward query outside the federation branch, whenever the stores name the new
object's subtree (it is not a headless service without stored Endpoints).  The two IP maps
agree at every IP other than the old object's cluster IPs. -/
theorem serviceUpdate_eq_delete_add {kd : KubeDNS} (h : Reachable kd) {old new : Service}
    (hs : kd.servicesStore old.key = some old) (hkey : new.key = old.key)
    (hsub : kd.expectedSubtree new ≠ none) :
    let U := kd.step (.serviceUpdate old new)
    let D := (kd.step (.serviceDelete old)).step (.serviceAdd new)
    U.servicesStore = D.servicesStore ∧ U.endpointsStore = D.endpointsStore ∧
      (∀ p k, U.cache.find p k = D.cache.find p k) ∧
      (∀ ip, ip ∉ ownedClusterIPs old → KubeDNS.SameAt U D ip) ∧
      ∀ nodeList name exact, (exact = true ∨
        kd.isFederationQuery (Strings.split (Strings.trimRight name '.') '.') ≠ .ok true) →
        U.answer nodeList (.records name exact) = D.answer nodeList (.records name exact) := by
  intro U D
  have hfU : KubeDNS.Frame (kd.storeUpdate (.serviceUpdate old new)) U :=
    KubeDNS.frame_updateService _ old new
  have hD : D = ((kd.storeUpdate (.serviceUpdate old new)).removeService old).newService new :=
    KubeDNS.step_serviceDelete_serviceAdd hkey
  have hfD : KubeDNS.Frame (kd.storeUpdate (.serviceUpdate old new)) D :=
    hD ▸ (KubeDNS.frame_removeService _ old).trans (KubeDNS.frame_newService _ new)
  have hfind := fun p k => KubeDNS.serviceUpdate_find_eq (p := p) (k := k) h hs hkey hsub
  refine ⟨hfU.servicesStore.trans hfD.servicesStore.symm,
    hfU.endpointsStore.trans hfD.endpointsStore.symm, hfind,
    fun ip hip => KubeDNS.serviceUpdate_sameAt hkey hip, fun nodeList name exact hlocal => ?_⟩
  have hdD : D.domain = kd.domain := by simp only [D, KubeDNS.step_domain]
  have hcD : D.config = kd.config := by simp only [D, KubeDNS.step_config]
  refine KubeDNS.answer_records_congr (hfU.domain.trans hfD.domain.symm)
    ((KubeDNS.step_config kd _).trans hcD.symm)
    (by simp only [U, D, KubeDNS.step_nodesStore]) hfind ?_
  rwa [KubeDNS.isFederationQuery_congr hdD hcD]

theorem serviceUpdate_eq_delete_add_web :
    let a : Service := ⟨"web", "prod", .clusterIP, "10.0.0.1", [], [], ""⟩
    let a' : Service := ⟨"web", "prod", .clusterIP, "10.0.0.2", [], [], ""⟩
    let kd := (KubeDNS.newKubeDNS "cluster.local").step (.serviceAdd a)
    let q : Query := .records "web.prod.svc.cluster.local." false
    Reachable kd ∧ kd.servicesStore a.key = some a ∧ kd.expectedSubtree a' ≠ none ∧
      (kd.step (.serviceUpdate a a')).answer (.ok []) q =
        ((kd.step (.serviceDelete a)).step (.serviceAdd a')).answer (.ok []) q := by
  intro a a' kd q
  have hr : Reachable kd := reachable_serviceAdd _ a
  have hs : kd.servicesStore a.key = some a := by decide
  have hsub : kd.expectedSubtree a' ≠ none := by simp [KubeDNS.expectedSubtree, isServiceIPSet]
  exact ⟨hr, hs, hsub, (@serviceUpdate_eq_delete_add kd hr a a' hs rfl hsub).2.2.2.2 (.ok [])
    "web.prod.svc.cluster.local." false (.inr (by decide))⟩

/-! ## 5. Runs that end in the same stores -/

/-- **Forward answers are a function of the stores.**  Two reachable states with the same
domain, configuration, node store and stores, every stored service having its subtree
named by the stores, give the same answer to every forward query outside the federation
branch, whatever runs led to them: the caches find alike (`reachable_cache_agrees`). -/
theorem reachable_records_determined {kd kd' : KubeDNS} (h : Reachable kd) (h' : Reachable kd')
    (hd : kd'.domain = kd.domain) (hcfg : kd'.config = kd.config)
    (hn : kd'.nodesStore = kd.nodesStore) (hs : kd'.servicesStore = kd.servicesStore)
    (he : kd'.endpointsStore = kd.endpointsStore)
    (hfull : ∀ s, kd.servicesStore s.key = some s → kd.expectedSubtree s ≠ none)
    (nodeList : NodeList) (name : String) (exact : Bool)
    (hlocal : exact = true ∨
      kd.isFederationQuery (Strings.split (Strings.trimRight name '.') '.') ≠ .ok true) :
    kd'.answer nodeList (.records name exact) = kd.answer nodeList (.records name exact) :=
  KubeDNS.answer_records_congr hd hcfg hn (h.cacheAgrees.find_eq h'.cacheAgrees hd hs he hfull)
    hlocal

theorem reachable_records_determined_db :
    let s : Service := ⟨"db", "prod", .clusterIP, "None", [], [], ""⟩
    let e : Endpoints := ⟨"db", "prod", [⟨[⟨"10.1.0.7", "db-0"⟩], []⟩]⟩
    let e' : Endpoints := ⟨"db", "prod", [⟨[⟨"10.1.0.8", "db-1"⟩], []⟩]⟩
    let kd₀ := (KubeDNS.newKubeDNS "cluster.local").step (.serviceAdd s)
    let kd := (kd₀.step (.endpointsAdd e)).step (.endpointsUpdate e e')
    let kd' := kd₀.step (.endpointsAdd e')
    let q : Query := .records "db.prod.svc.cluster.local." false
    Reachable kd ∧ Reachable kd' ∧ kd.servicesStore s.key = some s ∧
      kd'.answer (.ok []) q = kd.answer (.ok []) q := by
  intro s e e' kd₀ kd kd' q
  have h₀ := @servicesStore_step_of_ne (KubeDNS.newKubeDNS "cluster.local") (.serviceAdd s) _
    rfl fun _ _ => rfl
  have h₁ := @servicesStore_step_of_ne _ (.endpointsAdd e) _ rfl h₀
  have h₂ := @servicesStore_step_of_ne _ (.endpointsUpdate e e') _ rfl h₁
  have h₁' := @servicesStore_step_of_ne _ (.endpointsAdd e') _ rfl h₀
  have hr₀ : Reachable kd₀ := reachable_serviceAdd _ s
  have hr₁ : Reachable (kd₀.step (.endpointsAdd e)) :=
    .step hr₀ (by decide) (disjointIPs_of_servicesStore h₁)
  have hr : Reachable kd := .step hr₁ ⟨by decide, rfl⟩ (disjointIPs_of_servicesStore h₂)
  have hr' : Reachable kd' := .step hr₀ (by decide) (disjointIPs_of_servicesStore h₁')
  have hs : kd.servicesStore s.key = some s := by decide
  have hfull : ∀ s', kd.servicesStore s'.key = some s' → kd.expectedSubtree s' ≠ none := by
    intro s' hs'
    have : s' = s := by
      by_cases hkey : s'.key = s.key
      · rw [hkey, hs] at hs'
        exact (Option.some.inj hs').symm
      · rw [h₂ _ hkey] at hs'
        cases hs'
    have he : kd.endpointsStore s.key = some e' := by decide
    subst this
    simp [KubeDNS.expectedSubtree, isServiceIPSet, he]
  have hkey : e.key = e'.key := rfl
  exact ⟨hr, hr', hs, reachable_records_determined hr hr' rfl rfl rfl
    (by simp [kd, kd', KubeDNS.storeUpdate]) (by simp [kd, kd', KubeDNS.storeUpdate, hkey]) hfull
    (.ok []) _ false (.inr (by decide))⟩

end KubeDns
