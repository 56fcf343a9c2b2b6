/-
# The cluster IP index

`clusterIPServiceMap` maps a cluster IP to its service.  Only `newPortalService` writes an
entry and only `removeService` deletes one; the endpoints handlers never touch it.
`recordsForFederation` reads it twice: a record whose Host is no key counts as a headless
service's record (`isHeadlessServiceRecord`), and for any other record the service it maps
to is the one whose Endpoints are checked (`serviceWithClusterIPHasEndpoints`).

* `expectedService`: the entry the stores call for at an IP, the service of a
  non-ExternalName service with its cluster IP set, at each of its cluster IPs.
* `ServiceIndexAgrees`: every entry the stores call for is in the index.  One step keeps it:
  at the event's own key the handler writes it (`ServiceIndexAgrees.step_own`), and at any
  other key nothing moves, since a step moves the index only at IPs its own key owns
  (`step_clusterIPServiceMap_ne`) and no IP is owned twice.
* `reachable_clusterIPServiceMap_agrees`: in every state of a run, each cluster IP of a
  current cluster-IP service maps to that service; so the federation check accepts a
  record whose Host is such an IP exactly when the service's Endpoints are stored with at
  least one subset.

What is NOT claimed: that the index holds nothing else.  As with the reverse index, an
update that changes a cluster IP writes the new entry and never drops the old one.
-/
import KubeDns.ReverseIndex
import KubeDns.Query

namespace KubeDns

namespace KubeDNS

/-! ## 1. What the stores call for -/

/-- The index entry the stores call for at `ip` under `key`: the current service, when it
is not an ExternalName service, has its cluster IP set and `ip` is one of its cluster IPs. -/
def expectedService (kd : KubeDNS) (key : ObjectKey) (ip : String) : Option Service :=
  match kd.servicesStore key with
  | none => none
  | some s =>
    if s.type = .externalName then none
    else if isServiceIPSet s ∧ ip ∈ getClusterIPs s then some s else none

theorem expectedService_eq_some {kd : KubeDNS} {key : ObjectKey} {ip : String} {s : Service} :
    kd.expectedService key ip = some s ↔ kd.servicesStore key = some s ∧
      s.type ≠ .externalName ∧ isServiceIPSet s = true ∧ ip ∈ getClusterIPs s := by
  unfold expectedService
  cases kd.servicesStore key with
  | none => simp
  | some s' =>
    dsimp only
    constructor
    · intro h
      split_ifs at h with h₁ h₂
      cases h
      exact ⟨rfl, h₁, h₂⟩
    · rintro ⟨⟨⟩, hen, hip, hmem⟩
      simp [hen, hip, hmem]

theorem expectedService_congr {kd kd' : KubeDNS} {key : ObjectKey}
    (hs : kd'.servicesStore key = kd.servicesStore key) :
    kd'.expectedService key = kd.expectedService key := by
  funext ip
  unfold expectedService
  rw [hs]

/-- The stores call for an index entry only at an IP the key owns. -/
theorem mem_ownedIPs_of_expectedService {kd : KubeDNS} {key : ObjectKey} {ip : String}
    {s : Service} (h : kd.expectedService key ip = some s) : ip ∈ kd.ownedIPs key := by
  obtain ⟨hs, -, hip, hmem⟩ := expectedService_eq_some.mp h
  exact mem_ownedIPs.mpr ⟨s, hs, .inl (by simp [ownedClusterIPs, hip, hmem])⟩

/-! ## 2. Which IPs each handler moves -/

@[simp] theorem storeUpdate_clusterIPServiceMap (kd : KubeDNS) (ev : Event) :
    (kd.storeUpdate ev).clusterIPServiceMap = kd.clusterIPServiceMap := by
  cases ev <;> rfl

theorem newService_clusterIPServiceMap_ne {kd : KubeDNS} {s : Service} {ip : String}
    (h : (kd.newService s).clusterIPServiceMap ip ≠ kd.clusterIPServiceMap ip) :
    ip ∈ ownedClusterIPs s := by
  unfold newService newHeadlessService at h
  split_ifs at h with hen hip
  · exact absurd rfl h
  · split at h <;> exact absurd rfl h
  · simp only [Bool.not_eq_true', Bool.not_eq_false] at hip
    by_cases hmem : ip ∈ getClusterIPs s
    · simp [ownedClusterIPs, hip, hmem]
    · simp [newPortalService, hmem] at h

theorem removeService_clusterIPServiceMap_ne {kd : KubeDNS} {s : Service} {ip : String}
    (h : (kd.removeService s).clusterIPServiceMap ip ≠ kd.clusterIPServiceMap ip) :
    ip ∈ ownedClusterIPs s := by
  unfold removeService at h
  split_ifs at h with hip
  · by_cases hmem : ip ∈ getClusterIPs s
    · simp [ownedClusterIPs, hip, hmem]
    · simp [hmem] at h
  · exact absurd rfl h

/-- The endpoints handlers leave the index alone. -/
theorem addDNSUsingEndpoints_clusterIPServiceMap (kd : KubeDNS) (e : Endpoints) :
    (kd.addDNSUsingEndpoints e).clusterIPServiceMap = kd.clusterIPServiceMap := by
  unfold addDNSUsingEndpoints
  split
  · split_ifs <;> rfl
  · rfl

theorem removeOldPTRRecords_clusterIPServiceMap (kd : KubeDNS) (old new : Endpoints) :
    (kd.removeOldPTRRecords old new).clusterIPServiceMap = kd.clusterIPServiceMap := by
  unfold removeOldPTRRecords
  split
  · split_ifs <;> rfl
  · rfl

theorem handleEndpointDelete_clusterIPServiceMap (kd : KubeDNS) (e : Endpoints) :
    (kd.handleEndpointDelete e).clusterIPServiceMap = kd.clusterIPServiceMap := by
  unfold handleEndpointDelete
  split
  · split_ifs <;> rfl
  · rfl

/-- `newService` writes the entry of each of its cluster IPs. -/
theorem newService_clusterIPServiceMap {kd : KubeDNS} {s : Service} {ip : String}
    (hen : s.type ≠ .externalName) (hip : isServiceIPSet s = true) (hmem : ip ∈ getClusterIPs s) :
    (kd.newService s).clusterIPServiceMap ip = some s := by
  simp [newService, hen, hip, newPortalService, hmem]

/-! ## 3. Along a run -/

/-- A step moves the entry of an IP only if the event's key owns it, before or after. -/
theorem step_clusterIPServiceMap_ne {kd : KubeDNS} {ev : Event} {ip : String}
    (hv : ev.Valid kd) (h : (kd.step ev).clusterIPServiceMap ip ≠ kd.clusterIPServiceMap ip) :
    ip ∈ kd.ownedIPs ev.key ∨ ip ∈ (kd.step ev).ownedIPs ev.key := by
  have hframe := frame_handle (kd.storeUpdate ev) ev
  have hpost : (kd.step ev).ownedIPs ev.key = (kd.storeUpdate ev).ownedIPs ev.key :=
    ownedIPs_congr (congrFun hframe.servicesStore _) (congrFun hframe.endpointsStore _)
  rw [hpost]
  cases ev <;> dsimp only [Event.key]
  case serviceAdd s =>
    exact .inr (mem_ownedIPs.mpr ⟨s, by simp [storeUpdate],
      .inl (newService_clusterIPServiceMap_ne (by simpa using h))⟩)
  case serviceUpdate old new =>
    obtain ⟨hold, hkey⟩ := hv
    set kd₁ := kd.storeUpdate (.serviceUpdate old new)
    have hnew : kd₁.servicesStore new.key = some new := by simp [kd₁, storeUpdate]
    simp only [step, handle, updateService] at h
    split_ifs at h
    · by_cases h₁ : (kd₁.removeService old).clusterIPServiceMap ip = kd.clusterIPServiceMap ip
      · rw [← h₁] at h
        exact .inr (mem_ownedIPs.mpr ⟨new, hnew, .inl (newService_clusterIPServiceMap_ne h)⟩)
      · exact .inl (mem_ownedIPs.mpr ⟨old, hkey ▸ hold,
          .inl (removeService_clusterIPServiceMap_ne (by simpa [kd₁] using h₁))⟩)
    · exact .inr (mem_ownedIPs.mpr ⟨new, hnew,
        .inl (newService_clusterIPServiceMap_ne (by simpa [kd₁] using h))⟩)
  case serviceDelete s =>
    exact .inl (mem_ownedIPs.mpr ⟨s, hv, .inl (removeService_clusterIPServiceMap_ne h)⟩)
  case endpointsAdd e =>
    simp [step, handle, handleEndpointAdd, addDNSUsingEndpoints_clusterIPServiceMap] at h
  case endpointsUpdate old new =>
    simp [step, handle, handleEndpointUpdate, handleEndpointAdd,
      addDNSUsingEndpoints_clusterIPServiceMap, removeOldPTRRecords_clusterIPServiceMap] at h
  case endpointsDelete e =>
    simp [step, handle, handleEndpointDelete_clusterIPServiceMap] at h

/-- The invariant: every index entry the stores call for is in the index. -/
def ServiceIndexAgrees (kd : KubeDNS) : Prop :=
  ∀ key ip s, kd.expectedService key ip = some s → kd.clusterIPServiceMap ip = some s

/-- At the event's own key a step installs every entry the new stores call for. -/
theorem ServiceIndexAgrees.step_own {kd : KubeDNS} {ev : Event} (hi : kd.ServiceIndexAgrees)
    {ip : String} {s : Service} (h : (kd.step ev).expectedService ev.key ip = some s) :
    (kd.step ev).clusterIPServiceMap ip = some s := by
  obtain ⟨hs, hen, hip, hmem⟩ := expectedService_eq_some.mp h
  rw [step_servicesStore] at hs
  cases ev <;> dsimp only [Event.key] at hs
  case serviceAdd s' =>
    obtain rfl : s' = s := by simpa [storeUpdate] using hs
    exact newService_clusterIPServiceMap hen hip hmem
  case serviceUpdate old new =>
    obtain rfl : new = s := by simpa [storeUpdate] using hs
    simp only [step, handle, updateService]
    split_ifs <;> exact newService_clusterIPServiceMap hen hip hmem
  case serviceDelete s' => simp [storeUpdate] at hs
  all_goals
    have hown : kd.expectedService _ ip = some s :=
      expectedService_eq_some.mpr ⟨by simpa [storeUpdate] using hs, hen, hip, hmem⟩
    simpa [step, handle, handleEndpointAdd, handleEndpointUpdate,
      addDNSUsingEndpoints_clusterIPServiceMap, removeOldPTRRecords_clusterIPServiceMap,
      handleEndpointDelete_clusterIPServiceMap] using hi _ ip s hown

/-- **The step lemma.**  At other keys nothing the stores call for changes, and the step
moves only IPs its own key owns, which no other key owns before or after. -/
theorem ServiceIndexAgrees.step {kd : KubeDNS} {ev : Event} (hv : ev.Valid kd)
    (hd : DisjointIPs kd) (hd' : DisjointIPs (kd.step ev)) (hi : kd.ServiceIndexAgrees) :
    (kd.step ev).ServiceIndexAgrees := by
  intro key ip s h
  by_cases hk : key = ev.key
  · subst hk
    exact hi.step_own h
  · have hs : (kd.step ev).servicesStore key = kd.servicesStore key := by
      rw [step_servicesStore, storeUpdate_servicesStore_of_ne kd hk]
    have he : (kd.step ev).endpointsStore key = kd.endpointsStore key := by
      rw [step_endpointsStore, storeUpdate_endpointsStore_of_ne kd hk]
    have h₀ : kd.expectedService key ip = some s := by rwa [expectedService_congr hs] at h
    have hown := mem_ownedIPs_of_expectedService h₀
    rw [← hi key ip s h₀]
    by_contra hne
    rcases step_clusterIPServiceMap_ne hv hne with h₁ | h₁
    · exact hk (hd key ev.key ip hown h₁)
    · exact hk (hd' key ev.key ip (by rwa [ownedIPs_congr hs he]) h₁)

end KubeDNS

theorem Reachable.serviceIndexAgrees {kd : KubeDNS} (h : Reachable kd) :
    kd.ServiceIndexAgrees := by
  induction h with
  | init => intro key ip s h; simp [KubeDNS.expectedService, KubeDNS.newKubeDNS] at h
  | step hr hv hd' ih => exact ih.step hv hr.disjoint hd'
  | offInformer _ _ _ ih => exact ih

/-! ## 4. What the federation check sees -/

/-- A record whose Host the index maps to a service counts as local exactly when that
service's Endpoints are stored with a subset. -/
theorem KubeDNS.isValidLocalRecord_iff_endpoints {kd : KubeDNS} {r : SkyService} {s : Service}
    (hmap : kd.clusterIPServiceMap r.host = some s) :
    kd.isValidLocalRecord r = true ↔ ∃ e, kd.endpointsStore s.key = some e ∧ e.subsets ≠ [] := by
  cases he : kd.endpointsStore s.key <;>
    simp [KubeDNS.isValidLocalRecord, KubeDNS.isHeadlessServiceRecord,
      KubeDNS.serviceWithClusterIPHasEndpoints, hmap, he, List.length_pos]

/-- **The cluster IP index holds every current cluster-IP service.**  In every state of a
valid run in which no IP is owned twice, each cluster IP of a current non-ExternalName
service with its cluster IP set maps to that service; so `recordsForFederation` counts a
record whose Host is such an IP as a local service exactly when that service's Endpoints
are stored with at least one subset. -/
theorem reachable_clusterIPServiceMap_agrees {kd : KubeDNS} (h : Reachable kd) {s : Service}
    (hs : kd.servicesStore s.key = some s) (hen : s.type ≠ .externalName)
    (hip : isServiceIPSet s = true) {ip : String} (hmem : ip ∈ getClusterIPs s) :
    kd.clusterIPServiceMap ip = some s ∧
      ∀ r : SkyService, r.host = ip →
        (kd.isValidLocalRecord r = true ↔ ∃ e, kd.endpointsStore s.key = some e ∧ e.subsets ≠ []) := by
  have hmap : kd.clusterIPServiceMap ip = some s :=
    h.serviceIndexAgrees s.key ip s (KubeDNS.expectedService_eq_some.mpr ⟨hs, hen, hip, hmem⟩)
  exact ⟨hmap, fun r hr => KubeDNS.isValidLocalRecord_iff_endpoints (hr ▸ hmap)⟩

/-- A fresh engine with one service added is a state of a valid run. -/
theorem reachable_serviceAdd (domain : String) (s : Service) :
    Reachable ((KubeDNS.newKubeDNS domain).step (.serviceAdd s)) :=
  .step (.init _) rfl (disjointIPs_of_servicesStore
    (@servicesStore_step_of_ne _ (.serviceAdd s) _ rfl fun _ _ => rfl))

theorem reachable_clusterIPServiceMap_agrees_web :
    let s : Service := ⟨"web", "prod", .clusterIP, "10.0.0.5", [], [], ""⟩
    let kd := (KubeDNS.newKubeDNS "cluster.local").step (.serviceAdd s)
    Reachable kd ∧ kd.servicesStore s.key = some s ∧ s.type ≠ .externalName ∧
      isServiceIPSet s = true ∧ "10.0.0.5" ∈ getClusterIPs s ∧
      kd.clusterIPServiceMap "10.0.0.5" = some s ∧
      ∀ r : SkyService, r.host = "10.0.0.5" →
        (kd.isValidLocalRecord r = true ↔
          ∃ e, kd.endpointsStore s.key = some e ∧ e.subsets ≠ []) := by
  intro s kd
  have hr : Reachable kd := reachable_serviceAdd _ s
  have hs : kd.servicesStore s.key = some s := by decide
  have hen : s.type ≠ .externalName := by decide
  have hmem : "10.0.0.5" ∈ getClusterIPs s := by decide
  exact ⟨hr, hs, hen, rfl, hmem, reachable_clusterIPServiceMap_agrees hr hs hen rfl hmem⟩

end KubeDns
