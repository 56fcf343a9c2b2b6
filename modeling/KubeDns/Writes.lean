/-
# What each handler writes

One lemma per handler states its effect on `reverseRecordMap`, `clusterIPServiceMap` and
the cache in closed form; the invariants of the later files rewrite with these and never
unfold a handler's loops.

The address loops are folds over `addresses e` (`foldl_subsets`).  `lastHostname` names the
address whose reverse record survives the loop of `generateRecordsForHeadlessService`: the
last one with the IP and a hostname (`headlessRecords_snd`).  `oldAddressMap_eq` says what
the two loops of `handleEndpointUpdate` compute: the old hostnamed IPs that no new address
names.
-/
import KubeDns.Events

namespace KubeDns

/-! ## 1. The address loops -/

theorem foldl_subsets {β : Type} (f : β → EndpointAddress → β) (e : Endpoints) (b : β) :
    e.subsets.foldl (fun b subset => subset.addresses.foldl f b) b =
      (addresses e).foldl f b := by
  simp [addresses, List.flatMap_def, List.foldl_flatten, List.foldl_map]

theorem mem_hostnamedIPs {e : Endpoints} {ip : String} :
    ip ∈ hostnamedIPs e ↔ ∃ a ∈ addresses e, (getHostname a).isSome ∧ a.ip = ip := by
  simp [hostnamedIPs, and_assoc]

/-- The hostname of the last address of `as` with IP `ip` that has one. -/
def lastHostname (as : List EndpointAddress) (ip : String) : Option String :=
  as.foldl (fun acc a => if a.ip = ip then (getHostname a).or acc else acc) none

@[simp] theorem lastHostname_nil (ip : String) : lastHostname [] ip = none := rfl

theorem lastHostname_concat (as : List EndpointAddress) (a : EndpointAddress) (ip : String) :
    lastHostname (as ++ [a]) ip =
      if a.ip = ip then (getHostname a).or (lastHostname as ip) else lastHostname as ip := by
  simp [lastHostname, List.foldl_append]

theorem lastHostname_isSome {as : List EndpointAddress} {ip : String} :
    (lastHostname as ip).isSome ↔ ∃ a ∈ as, (getHostname a).isSome ∧ a.ip = ip := by
  induction as using List.reverseRecOn with
  | nil => simp
  | append_singleton as a ih =>
    rw [lastHostname_concat]
    by_cases h : a.ip = ip
    · cases hg : getHostname a <;> simp [h, hg, ih, or_and_right, exists_or]
    · simp [h, ih, or_and_right, exists_or]

/-- An IP has a hostnamed address iff `lastHostname` finds one. -/
theorem lastHostname_isSome_iff {e : Endpoints} {ip : String} :
    (lastHostname (addresses e) ip).isSome ↔ ip ∈ hostnamedIPs e := by
  rw [lastHostname_isSome, mem_hostnamedIPs]

/-- The first loop of `handleEndpointUpdate`, on a list of addresses. -/
theorem foldl_markHostnamed (as : List EndpointAddress) (m : String → Bool) (ip : String) :
    as.foldl (fun m a => if (getHostname a).isSome then fun k => k == a.ip || m k else m) m ip =
      (m ip || decide (∃ a ∈ as, (getHostname a).isSome ∧ a.ip = ip)) := by
  induction as using List.reverseRecOn with
  | nil => simp
  | append_singleton as a ih =>
    rw [List.foldl_append]
    simp only [List.foldl_cons, List.foldl_nil, List.mem_append, List.mem_singleton,
      or_and_right, exists_or, exists_eq_left]
    split
    · next hg =>
      by_cases hip : a.ip = ip
      · simp [hip, hg]
      · simp [ih, hip, Ne.symm hip]
    · next hg => simp [ih, hg]

/-- The second loop, on a list of addresses. -/
theorem foldl_unmarkHostnamed (as : List EndpointAddress) (m : String → Bool) :
    as.foldl (fun m a => if m a.ip && (getHostname a).isSome then fun k => k != a.ip && m k
      else m) m = fun ip => m ip && !decide (∃ a ∈ as, (getHostname a).isSome ∧ a.ip = ip) := by
  induction as using List.reverseRecOn with
  | nil => simp
  | append_singleton as a ih =>
    rw [List.foldl_append, ih]
    funext ip
    simp only [List.foldl_cons, List.foldl_nil, List.mem_append, List.mem_singleton,
      or_and_right, exists_or, exists_eq_left]
    by_cases hg : (getHostname a).isSome
    · by_cases hip : a.ip = ip
      · subst hip
        split <;> simp_all
      · split <;> simp [hg, hip, Ne.symm hip]
    · simp [hg]

/-- The deleting loop, on a list of addresses. -/
theorem foldl_deletePTR (as : List EndpointAddress) (rev : String → Option SkyService) :
    as.foldl (fun m a => if (getHostname a).isSome then fun k => if k = a.ip then none else m k
      else m) rev = fun ip => if ∃ a ∈ as, (getHostname a).isSome ∧ a.ip = ip then none
        else rev ip := by
  induction as using List.reverseRecOn with
  | nil => simp
  | append_singleton as a ih =>
    rw [List.foldl_append, ih]
    funext ip
    simp only [List.foldl_cons, List.foldl_nil, List.mem_append, List.mem_singleton,
      or_and_right, exists_or, exists_eq_left]
    by_cases hg : (getHostname a).isSome
    · by_cases hip : a.ip = ip
      · simp [hg, hip]
      · simp [hg, hip, Ne.symm hip]
    · simp [hg]

theorem oldHostnamedIPs_eq (old : Endpoints) (ip : String) :
    oldHostnamedIPs old ip = decide (ip ∈ hostnamedIPs old) := by
  simp [oldHostnamedIPs, foldl_subsets, foldl_markHostnamed, mem_hostnamedIPs]

/-- **The two loops of `handleEndpointUpdate`** leave in `oldAddressMap` exactly the old
hostnamed IPs that no new address names. -/
theorem oldAddressMap_eq (old new : Endpoints) (ip : String) :
    oldAddressMap old new ip =
      (decide (ip ∈ hostnamedIPs old) && !decide (ip ∈ hostnamedIPs new)) := by
  rw [oldAddressMap, foldl_subsets, foldl_unmarkHostnamed]
  simp only [oldHostnamedIPs_eq, mem_hostnamedIPs]

theorem deleteHostnamedPTRs_eq (e : Endpoints) (rev : String → Option SkyService)
    (ip : String) :
    deleteHostnamedPTRs e rev ip = if ip ∈ hostnamedIPs e then none else rev ip := by
  rw [deleteHostnamedPTRs, foldl_subsets, foldl_deletePTR]
  simp only [mem_hostnamedIPs]

/-! ## 2. The reverse records a headless service stages -/

namespace KubeDNS

/-- The reverse record of a cluster IP: `getServiceFQDN` of the service. -/
def clusterIPPTR (kd : KubeDNS) (svc : Service) : SkyService :=
  (getSkyMsg (getServiceFQDN kd.domain svc) 0).1

/-- The reverse record of a headless endpoint with hostname `h`: `kd.fqdn(svc, h)`. -/
def headlessPTR (kd : KubeDNS) (svc : Service) (h : String) : SkyService :=
  (getSkyMsg (kd.fqdn svc [h]) 0).1

/-- One address's step on the staged reverse records: an address with a hostname stages
its record at its IP, over what an earlier address staged there. -/
def stagePTR (kd : KubeDNS) (svc : Service) (m : String → Option SkyService)
    (a : EndpointAddress) : String → Option SkyService :=
  fun ip => if a.ip = ip then ((getHostname a).map (kd.headlessPTR svc)).or (m ip) else m ip

theorem headlessAddressRecords_snd (kd : KubeDNS) (svc : Service) (ports : List EndpointPort)
    (acc : HeadlessAcc) (a : EndpointAddress) :
    (kd.headlessAddressRecords svc ports acc a).2 = kd.stagePTR svc acc.2 a := by
  funext ip
  simp only [headlessAddressRecords, stagePTR, endpointName]
  cases getHostname a <;> simp [eq_comm, headlessPTR]

theorem foldl_stagePTR (kd : KubeDNS) (svc : Service) (as : List EndpointAddress)
    (m : String → Option SkyService) :
    as.foldl (kd.stagePTR svc) m =
      fun ip => ((lastHostname as ip).map (kd.headlessPTR svc)).or (m ip) := by
  induction as using List.reverseRecOn with
  | nil => simp
  | append_singleton as a ih =>
    rw [List.foldl_append, ih]
    funext ip
    simp only [List.foldl_cons, List.foldl_nil, stagePTR, lastHostname_concat]
    split
    · cases getHostname a <;> simp
    · rfl

/-- **The staged reverse records**: the record of the last hostnamed address of each IP. -/
theorem headlessRecords_snd (kd : KubeDNS) (e : Endpoints) (svc : Service) :
    (kd.headlessRecords e svc).2 =
      fun ip => (lastHostname (addresses e) ip).map (kd.headlessPTR svc) := by
  have hsub : ∀ (ports : List EndpointPort) (as : List EndpointAddress) (acc : HeadlessAcc),
      (as.foldl (kd.headlessAddressRecords svc ports) acc).2 = as.foldl (kd.stagePTR svc) acc.2 :=
    fun ports as acc => (List.foldl_hom Prod.snd _ _ as acc fun acc a =>
      (headlessAddressRecords_snd kd svc ports acc a).symm).symm
  rw [headlessRecords, ← List.foldl_hom Prod.snd _
    (fun m subset => subset.addresses.foldl (kd.stagePTR svc) m) _ _ fun acc subset =>
      (hsub subset.ports subset.addresses acc).symm, foldl_subsets, foldl_stagePTR]
  simp

/-! ## 3. What the handlers leave alone -/

/-- `kd'` differs from `kd` at most in what the handlers write under `cacheLock`: the
cache and the two IP maps. -/
structure Frame (kd kd' : KubeDNS) : Prop where
  domain : kd'.domain = kd.domain
  endpointsStore : kd'.endpointsStore = kd.endpointsStore
  servicesStore : kd'.servicesStore = kd.servicesStore
  nodesStore : kd'.nodesStore = kd.nodesStore
  config : kd'.config = kd.config

theorem Frame.refl (kd : KubeDNS) : Frame kd kd := ⟨rfl, rfl, rfl, rfl, rfl⟩

theorem Frame.trans {kd₁ kd₂ kd₃ : KubeDNS} (h₁ : Frame kd₁ kd₂) (h₂ : Frame kd₂ kd₃) :
    Frame kd₁ kd₃ :=
  ⟨h₂.domain.trans h₁.domain, h₂.endpointsStore.trans h₁.endpointsStore,
    h₂.servicesStore.trans h₁.servicesStore, h₂.nodesStore.trans h₁.nodesStore,
    h₂.config.trans h₁.config⟩

theorem domainPath_congr {kd kd' : KubeDNS} (h : kd'.domain = kd.domain) :
    kd'.domainPath = kd.domainPath := by
  rw [KubeDNS.domainPath, h, KubeDNS.domainPath]

theorem namespacePath_congr {kd kd' : KubeDNS} (h : kd'.domain = kd.domain) :
    kd'.namespacePath = kd.namespacePath := by
  funext ns
  unfold KubeDNS.namespacePath
  rw [domainPath_congr h]

theorem clusterIPPTR_congr {kd kd' : KubeDNS} (h : kd'.domain = kd.domain) :
    kd'.clusterIPPTR = kd.clusterIPPTR := by
  funext svc
  unfold KubeDNS.clusterIPPTR
  rw [h]

theorem headlessPTR_congr {kd kd' : KubeDNS} (h : kd'.domain = kd.domain) :
    kd'.headlessPTR = kd.headlessPTR := by
  funext svc host
  unfold KubeDNS.headlessPTR fqdn
  rw [domainPath_congr h]

/-- A state with only the cache and the IP maps replaced. -/
theorem frame_shared (kd : KubeDNS) (c : TreeCache) (rev : String → Option SkyService)
    (cmap : String → Option Service) :
    Frame kd { kd with cache := c, reverseRecordMap := rev, clusterIPServiceMap := cmap } :=
  ⟨rfl, rfl, rfl, rfl, rfl⟩

theorem frame_newService (kd : KubeDNS) (s : Service) : Frame kd (kd.newService s) := by
  unfold newService newHeadlessService
  split_ifs
  · exact frame_shared _ _ _ _
  · split <;> exact frame_shared _ _ _ _
  · exact frame_shared _ _ _ _

theorem frame_removeService (kd : KubeDNS) (s : Service) : Frame kd (kd.removeService s) := by
  unfold removeService
  split_ifs <;> exact frame_shared _ _ _ _

theorem frame_updateService (kd : KubeDNS) (old new : Service) :
    Frame kd (kd.updateService old new) := by
  unfold updateService
  split_ifs
  · exact (frame_removeService kd old).trans (frame_newService _ new)
  · exact frame_newService kd new

theorem frame_handleEndpointAdd (kd : KubeDNS) (e : Endpoints) :
    Frame kd (kd.handleEndpointAdd e) := by
  unfold handleEndpointAdd addDNSUsingEndpoints
  split
  · split_ifs <;> exact frame_shared _ _ _ _
  · exact frame_shared _ _ _ _

theorem frame_removeOldPTRRecords (kd : KubeDNS) (old new : Endpoints) :
    Frame kd (kd.removeOldPTRRecords old new) := by
  unfold removeOldPTRRecords
  split
  · split_ifs <;> exact frame_shared _ _ _ _
  · exact frame_shared _ _ _ _

theorem frame_handleEndpointUpdate (kd : KubeDNS) (old new : Endpoints) :
    Frame kd (kd.handleEndpointUpdate old new) :=
  (frame_removeOldPTRRecords kd old new).trans (frame_handleEndpointAdd _ new)

theorem frame_handleEndpointDelete (kd : KubeDNS) (e : Endpoints) :
    Frame kd (kd.handleEndpointDelete e) := by
  unfold handleEndpointDelete
  split
  · split_ifs <;> exact frame_shared _ _ _ _
  · exact frame_shared _ _ _ _

/-! ## 4. What each handler writes -/

@[simp] theorem generateRecordsForHeadlessService_reverseRecordMap (kd : KubeDNS)
    (e : Endpoints) (svc : Service) (ip : String) :
    (kd.generateRecordsForHeadlessService e svc).reverseRecordMap ip =
      ((lastHostname (addresses e) ip).map (kd.headlessPTR svc)).or (kd.reverseRecordMap ip) := by
  simp only [generateRecordsForHeadlessService, headlessRecords_snd]

/-- The endpoints handlers act only for a headless, non-ExternalName service. -/
theorem addDNSUsingEndpoints_of_headless {kd : KubeDNS} {e : Endpoints} {svc : Service}
    (hs : kd.servicesStore e.key = some svc) (hip : isServiceIPSet svc = false)
    (hen : svc.type ≠ .externalName) :
    kd.addDNSUsingEndpoints e = kd.generateRecordsForHeadlessService e svc := by
  simp [addDNSUsingEndpoints, getServiceFromEndpoints, hs, hip, hen]

theorem addDNSUsingEndpoints_of_not_headless {kd : KubeDNS} {e : Endpoints}
    (h : ∀ svc, kd.servicesStore e.key = some svc →
      isServiceIPSet svc = true ∨ svc.type = .externalName) :
    kd.addDNSUsingEndpoints e = kd := by
  unfold addDNSUsingEndpoints getServiceFromEndpoints
  split
  · next svc hs => rcases h svc hs with h | h <;> simp [h]
  · rfl

theorem removeOldPTRRecords_reverseRecordMap {kd : KubeDNS} {old new : Endpoints}
    {svc : Service} (hs : kd.servicesStore old.key = some svc) (hip : isServiceIPSet svc = false)
    (ip : String) :
    (kd.removeOldPTRRecords old new).reverseRecordMap ip =
      if ip ∈ hostnamedIPs old ∧ ip ∉ hostnamedIPs new then none else kd.reverseRecordMap ip := by
  simp [removeOldPTRRecords, getServiceFromEndpoints, hs, hip, oldAddressMap_eq]

theorem removeOldPTRRecords_of_not_headless {kd : KubeDNS} {old new : Endpoints}
    (h : ∀ svc, kd.servicesStore old.key = some svc → isServiceIPSet svc = true) :
    kd.removeOldPTRRecords old new = kd := by
  unfold removeOldPTRRecords getServiceFromEndpoints
  split
  · next svc hs => simp [h svc hs]
  · rfl

theorem handleEndpointDelete_reverseRecordMap {kd : KubeDNS} {e : Endpoints} {svc : Service}
    (hs : kd.servicesStore e.key = some svc) (hip : isServiceIPSet svc = false) (ip : String) :
    (kd.handleEndpointDelete e).reverseRecordMap ip =
      if ip ∈ hostnamedIPs e then none else kd.reverseRecordMap ip := by
  simp [handleEndpointDelete, getServiceFromEndpoints, hs, hip, deleteHostnamedPTRs_eq]

theorem handleEndpointDelete_of_not_headless {kd : KubeDNS} {e : Endpoints}
    (h : ∀ svc, kd.servicesStore e.key = some svc → isServiceIPSet svc = true) :
    kd.handleEndpointDelete e = kd := by
  unfold handleEndpointDelete getServiceFromEndpoints
  split
  · next svc hs => simp [h svc hs]
  · rfl

/-! ## 5. A step: the store write, then the handler -/

theorem frame_handle (kd : KubeDNS) (ev : Event) : Frame kd (kd.handle ev) := by
  cases ev with
  | serviceAdd s => exact frame_newService kd s
  | serviceUpdate old new => exact frame_updateService kd old new
  | serviceDelete s => exact frame_removeService kd s
  | endpointsAdd e => exact frame_handleEndpointAdd kd e
  | endpointsUpdate old new => exact frame_handleEndpointUpdate kd old new
  | endpointsDelete e => exact frame_handleEndpointDelete kd e

@[simp] theorem storeUpdate_domain (kd : KubeDNS) (ev : Event) :
    (kd.storeUpdate ev).domain = kd.domain := by
  cases ev <;> rfl

@[simp] theorem storeUpdate_reverseRecordMap (kd : KubeDNS) (ev : Event) :
    (kd.storeUpdate ev).reverseRecordMap = kd.reverseRecordMap := by
  cases ev <;> rfl

@[simp] theorem step_servicesStore (kd : KubeDNS) (ev : Event) :
    (kd.step ev).servicesStore = (kd.storeUpdate ev).servicesStore :=
  (frame_handle _ ev).servicesStore

@[simp] theorem step_endpointsStore (kd : KubeDNS) (ev : Event) :
    (kd.step ev).endpointsStore = (kd.storeUpdate ev).endpointsStore :=
  (frame_handle _ ev).endpointsStore

@[simp] theorem step_domain (kd : KubeDNS) (ev : Event) : (kd.step ev).domain = kd.domain :=
  (frame_handle _ ev).domain.trans (storeUpdate_domain kd ev)

theorem storeUpdate_servicesStore_of_ne (kd : KubeDNS) {ev : Event} {key : ObjectKey}
    (h : key ≠ ev.key) : (kd.storeUpdate ev).servicesStore key = kd.servicesStore key := by
  cases ev <;> simp_all [storeUpdate, Event.key, Function.update_noteq]

theorem storeUpdate_endpointsStore_of_ne (kd : KubeDNS) {ev : Event} {key : ObjectKey}
    (h : key ≠ ev.key) : (kd.storeUpdate ev).endpointsStore key = kd.endpointsStore key := by
  cases ev <;> simp_all [storeUpdate, Event.key, Function.update_noteq]

end KubeDNS

/-- A state whose services store holds at most one key owns no IP twice. -/
theorem disjointIPs_of_servicesStore {kd : KubeDNS} {key : ObjectKey}
    (h : ∀ k, k ≠ key → kd.servicesStore k = none) : DisjointIPs kd := by
  have hk : ∀ k ip, ip ∈ kd.ownedIPs k → k = key := fun k ip hk => by
    by_contra hne
    simp [KubeDNS.ownedIPs, h k hne] at hk
  intro k₁ k₂ ip h₁ h₂
  rw [hk k₁ ip h₁, hk k₂ ip h₂]

/-- A step at `key` keeps every other key of the services store empty. -/
theorem servicesStore_step_of_ne {kd : KubeDNS} {ev : Event} {key : ObjectKey}
    (hev : ev.key = key) (h : ∀ k, k ≠ key → kd.servicesStore k = none) :
    ∀ k, k ≠ key → (kd.step ev).servicesStore k = none := fun k hk => by
  rw [KubeDNS.step_servicesStore, KubeDNS.storeUpdate_servicesStore_of_ne kd (hev ▸ hk), h k hk]

end KubeDns
