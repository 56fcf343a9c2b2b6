/-
# The reverse index

`reverseRecordMap` answers `ReverseRecord`.  Section 1 says what the three endpoints
handlers do to it for a headless service (`handleEndpoint_reverseRecordMap`): the add
stages the record of the last hostnamed address of every IP, the update first drops the
IPs that lost their last hostnamed address, the delete drops every hostnamed IP, and no
other IP moves.

Sections 2 to 4 follow the index along whole runs.  The stores call for one reverse record
per owned IP (`expectedPTR`): the `getServiceFQDN` record of every cluster IP of a
non-ExternalName service with its cluster IP set, and the `kd.fqdn(svc, h)` record of the
last hostnamed address of each IP of a headless service's stored Endpoints.  Every state
of a run holds each of them (`reachable_reverseRecordMap_agrees`); the step lemma is one
frame fact (a step moves only IPs its own key owns, before or after) and one computation at
the event's own key.

What is NOT claimed: that the index holds nothing else.  Section 5 keeps an entry that no
current service calls for (`reverseRecordMap_keeps_dropped_clusterIP`): an update that
changes the cluster IP adds the new entry and never drops the old one.
-/
import KubeDns.Writes

namespace KubeDns

namespace KubeDNS

/-! ## 1. The endpoints handlers of a headless service -/

/-- **The endpoints handlers of a headless service.**  The add sets the record of the last
hostnamed address of each IP, the update also drops the old hostnamed IPs, the delete drops
every hostnamed IP; every other IP keeps its entry. -/
theorem handleEndpoint_reverseRecordMap (kd : KubeDNS) (s : Service) (e old new : Endpoints)
    (hs : kd.servicesStore s.key = some s) (hip : isServiceIPSet s = false)
    (hen : s.type ≠ .externalName) (he : e.key = s.key) (hold : old.key = s.key)
    (hnew : new.key = s.key) (ip : String) :
    (kd.handleEndpointAdd e).reverseRecordMap ip =
        ((lastHostname (addresses e) ip).map (kd.headlessPTR s)).or (kd.reverseRecordMap ip) ∧
      (kd.handleEndpointUpdate old new).reverseRecordMap ip =
        ((lastHostname (addresses new) ip).map (kd.headlessPTR s)).or
          (if ip ∈ hostnamedIPs old then none else kd.reverseRecordMap ip) ∧
      (kd.handleEndpointDelete e).reverseRecordMap ip =
        if ip ∈ hostnamedIPs e then none else kd.reverseRecordMap ip := by
  have hframe := frame_removeOldPTRRecords kd old new
  refine ⟨?_, ?_, handleEndpointDelete_reverseRecordMap (he ▸ hs) hip ip⟩
  · rw [handleEndpointAdd, addDNSUsingEndpoints_of_headless (he ▸ hs) hip hen,
      generateRecordsForHeadlessService_reverseRecordMap]
  · rw [handleEndpointUpdate, handleEndpointAdd,
      addDNSUsingEndpoints_of_headless (hframe.servicesStore ▸ hnew ▸ hs) hip hen,
      generateRecordsForHeadlessService_reverseRecordMap, headlessPTR_congr hframe.domain,
      removeOldPTRRecords_reverseRecordMap (hold ▸ hs) hip]
    cases h : lastHostname (addresses new) ip with
    | none =>
      have hnot : ip ∉ hostnamedIPs new := by
        rw [← lastHostname_isSome_iff, h]
        simp
      simp [hnot]
    | some _ => rfl

theorem handleEndpoint_reverseRecordMap_db :
    let s : Service := ⟨"db", "prod", .clusterIP, "None", [], [], ""⟩
    let e : Endpoints := ⟨"db", "prod", [⟨[⟨"10.0.0.7", "db-0"⟩], []⟩]⟩
    let kd : KubeDNS :=
      { newKubeDNS "cluster.local" with
        servicesStore := fun k => if k = s.key then some s else none }
    kd.servicesStore s.key = some s ∧ isServiceIPSet s = false ∧ s.type ≠ .externalName ∧
      (kd.handleEndpointAdd e).reverseRecordMap "10.0.0.7" =
        ((lastHostname (addresses e) "10.0.0.7").map (kd.headlessPTR s)).or
          (kd.reverseRecordMap "10.0.0.7") := by
  intro s e kd
  exact ⟨by decide, rfl, by decide,
    (handleEndpoint_reverseRecordMap kd s e e e (by decide) rfl (by decide) rfl rfl rfl _).1⟩

/-! ## 2. The reverse records the stores call for -/

/-- The reverse record the stores call for at `ip` under `key`: the cluster IP record of a
non-ExternalName service with its cluster IP set, or the record of the last hostnamed
address of the IP in a headless service's stored Endpoints. -/
def expectedPTR (kd : KubeDNS) (key : ObjectKey) (ip : String) : Option SkyService :=
  match kd.servicesStore key with
  | none => none
  | some s =>
    if s.type = .externalName then none
    else if isServiceIPSet s then
      if ip ∈ getClusterIPs s then some (kd.clusterIPPTR s) else none
    else ((kd.endpointsStore key).bind fun e => lastHostname (addresses e) ip).map
      (kd.headlessPTR s)

theorem expectedPTR_eq_some {kd : KubeDNS} {key : ObjectKey} {ip : String} {r : SkyService} :
    kd.expectedPTR key ip = some r ↔ ∃ s, kd.servicesStore key = some s ∧
      s.type ≠ .externalName ∧
      ((isServiceIPSet s = true ∧ ip ∈ getClusterIPs s ∧ kd.clusterIPPTR s = r) ∨
        (isServiceIPSet s = false ∧ ∃ e h, kd.endpointsStore key = some e ∧
          lastHostname (addresses e) ip = some h ∧ kd.headlessPTR s h = r)) := by
  unfold expectedPTR
  cases kd.servicesStore key with
  | none => simp
  | some s =>
    by_cases hen : s.type = .externalName
    · simp [hen]
    · cases hip : isServiceIPSet s
      · cases kd.endpointsStore key <;> simp [hen, hip]
      · by_cases hmem : ip ∈ getClusterIPs s <;> simp [hen, hip, hmem]

theorem expectedPTR_congr {kd kd' : KubeDNS} {key : ObjectKey}
    (hs : kd'.servicesStore key = kd.servicesStore key)
    (he : kd'.endpointsStore key = kd.endpointsStore key) (hd : kd'.domain = kd.domain) :
    kd'.expectedPTR key = kd.expectedPTR key := by
  funext ip
  unfold expectedPTR
  rw [hs, he, clusterIPPTR_congr hd, headlessPTR_congr hd]

theorem mem_ownedIPs {kd : KubeDNS} {key : ObjectKey} {ip : String} :
    ip ∈ kd.ownedIPs key ↔ ∃ s, kd.servicesStore key = some s ∧
      (ip ∈ ownedClusterIPs s ∨ ∃ e, kd.endpointsStore key = some e ∧ ip ∈ hostnamedIPs e) := by
  unfold ownedIPs
  cases kd.servicesStore key <;> cases kd.endpointsStore key <;> simp

theorem ownedIPs_congr {kd kd' : KubeDNS} {key : ObjectKey}
    (hs : kd'.servicesStore key = kd.servicesStore key)
    (he : kd'.endpointsStore key = kd.endpointsStore key) :
    kd'.ownedIPs key = kd.ownedIPs key := by
  unfold ownedIPs
  rw [hs, he]

/-- The stores call for a reverse record only at an IP the key owns. -/
theorem mem_ownedIPs_of_expectedPTR {kd : KubeDNS} {key : ObjectKey} {ip : String}
    {r : SkyService} (h : kd.expectedPTR key ip = some r) : ip ∈ kd.ownedIPs key := by
  obtain ⟨s, hs, -, ⟨hip, hmem, -⟩ | ⟨-, e, host, he, hh, -⟩⟩ := expectedPTR_eq_some.mp h
  · exact mem_ownedIPs.mpr ⟨s, hs, .inl (by simp [ownedClusterIPs, hip, hmem])⟩
  · exact mem_ownedIPs.mpr ⟨s, hs, .inr ⟨e, he, lastHostname_isSome_iff.mp (by simp [hh])⟩⟩

/-! ## 3. Which IPs each handler moves -/

theorem newService_reverseRecordMap_ne {kd : KubeDNS} {s : Service} {ip : String}
    (h : (kd.newService s).reverseRecordMap ip ≠ kd.reverseRecordMap ip) :
    ip ∈ ownedClusterIPs s ∨ ∃ e, kd.endpointsStore s.key = some e ∧ ip ∈ hostnamedIPs e := by
  unfold newService newHeadlessService at h
  split_ifs at h with hen hip
  · exact absurd rfl h
  · split at h
    · next e he =>
      refine .inr ⟨e, he, lastHostname_isSome_iff.mp ?_⟩
      rw [generateRecordsForHeadlessService_reverseRecordMap] at h
      cases hl : lastHostname (addresses e) ip <;> simp_all
    · exact absurd rfl h
  · simp only [Bool.not_eq_true', Bool.not_eq_false] at hip
    by_cases hmem : ip ∈ getClusterIPs s
    · simp [ownedClusterIPs, hip, hmem]
    · simp [newPortalService, hmem] at h

theorem removeService_reverseRecordMap_ne {kd : KubeDNS} {s : Service} {ip : String}
    (h : (kd.removeService s).reverseRecordMap ip ≠ kd.reverseRecordMap ip) :
    ip ∈ ownedClusterIPs s := by
  unfold removeService at h
  split_ifs at h with hip
  · by_cases hmem : ip ∈ getClusterIPs s
    · simp [ownedClusterIPs, hip, hmem]
    · simp [hmem] at h
  · exact absurd rfl h

theorem addDNSUsingEndpoints_reverseRecordMap_ne {kd : KubeDNS} {e : Endpoints} {ip : String}
    (h : (kd.addDNSUsingEndpoints e).reverseRecordMap ip ≠ kd.reverseRecordMap ip) :
    (∃ svc, kd.servicesStore e.key = some svc) ∧ ip ∈ hostnamedIPs e := by
  unfold addDNSUsingEndpoints getServiceFromEndpoints at h
  split at h
  · next svc hs =>
    split_ifs at h
    · exact absurd rfl h
    · refine ⟨⟨svc, hs⟩, lastHostname_isSome_iff.mp ?_⟩
      rw [generateRecordsForHeadlessService_reverseRecordMap] at h
      cases hl : lastHostname (addresses e) ip <;> simp_all
  · exact absurd rfl h

theorem removeOldPTRRecords_reverseRecordMap_ne {kd : KubeDNS} {old new : Endpoints}
    {ip : String}
    (h : (kd.removeOldPTRRecords old new).reverseRecordMap ip ≠ kd.reverseRecordMap ip) :
    (∃ svc, kd.servicesStore old.key = some svc) ∧ ip ∈ hostnamedIPs old := by
  unfold removeOldPTRRecords getServiceFromEndpoints at h
  split at h
  · next svc hs =>
    split_ifs at h
    · refine ⟨⟨svc, hs⟩, ?_⟩
      by_contra hmem
      simp [oldAddressMap_eq, hmem] at h
    · exact absurd rfl h
  · exact absurd rfl h

theorem handleEndpointDelete_reverseRecordMap_ne {kd : KubeDNS} {e : Endpoints} {ip : String}
    (h : (kd.handleEndpointDelete e).reverseRecordMap ip ≠ kd.reverseRecordMap ip) :
    (∃ svc, kd.servicesStore e.key = some svc) ∧ ip ∈ hostnamedIPs e := by
  unfold handleEndpointDelete getServiceFromEndpoints at h
  split at h
  · next svc hs =>
    split_ifs at h
    · refine ⟨⟨svc, hs⟩, ?_⟩
      by_contra hmem
      simp [deleteHostnamedPTRs_eq, hmem] at h
    · exact absurd rfl h
  · exact absurd rfl h

/-! ## 4. Along a run -/

/-- A step moves the entry of an IP only if the event's key owns it, before or after. -/
theorem step_reverseRecordMap_ne {kd : KubeDNS} {ev : Event} {ip : String} (hv : ev.Valid kd)
    (h : (kd.step ev).reverseRecordMap ip ≠ kd.reverseRecordMap ip) :
    ip ∈ kd.ownedIPs ev.key ∨ ip ∈ (kd.step ev).ownedIPs ev.key := by
  have hframe := frame_handle (kd.storeUpdate ev) ev
  have hpost : (kd.step ev).ownedIPs ev.key = (kd.storeUpdate ev).ownedIPs ev.key :=
    ownedIPs_congr (congrFun hframe.servicesStore _) (congrFun hframe.endpointsStore _)
  rw [hpost]
  cases ev <;> dsimp only [Event.key]
  case serviceAdd s =>
    exact .inr (mem_ownedIPs.mpr ⟨s, by simp [storeUpdate], newService_reverseRecordMap_ne h⟩)
  case serviceUpdate old new =>
    obtain ⟨hold, hkey⟩ := hv
    set kd₁ := kd.storeUpdate (.serviceUpdate old new)
    have hnew : kd₁.servicesStore new.key = some new := by simp [kd₁, storeUpdate]
    simp only [step, handle, updateService] at h
    split_ifs at h
    · by_cases h₁ : (kd₁.removeService old).reverseRecordMap ip = kd.reverseRecordMap ip
      · rw [← h₁] at h
        refine .inr (mem_ownedIPs.mpr ⟨new, hnew, ?_⟩)
        simpa only [(frame_removeService kd₁ old).endpointsStore] using
          newService_reverseRecordMap_ne h
      · exact .inl (mem_ownedIPs.mpr ⟨old, hkey ▸ hold, .inl (removeService_reverseRecordMap_ne h₁)⟩)
    · exact .inr (mem_ownedIPs.mpr ⟨new, hnew, newService_reverseRecordMap_ne h⟩)
  case serviceDelete s =>
    exact .inl (mem_ownedIPs.mpr ⟨s, hv, .inl (removeService_reverseRecordMap_ne h)⟩)
  case endpointsAdd e =>
    obtain ⟨⟨svc, hs⟩, hmem⟩ := addDNSUsingEndpoints_reverseRecordMap_ne h
    exact .inr (mem_ownedIPs.mpr ⟨svc, hs, .inr ⟨e, by simp [storeUpdate], hmem⟩⟩)
  case endpointsUpdate old new =>
    obtain ⟨hold, hkey⟩ := hv
    set kd₁ := kd.storeUpdate (.endpointsUpdate old new)
    simp only [step, handle, handleEndpointUpdate] at h
    by_cases h₁ : (kd₁.removeOldPTRRecords old new).reverseRecordMap ip = kd.reverseRecordMap ip
    · rw [← h₁] at h
      obtain ⟨⟨svc, hs⟩, hmem⟩ := addDNSUsingEndpoints_reverseRecordMap_ne h
      refine .inr (mem_ownedIPs.mpr
        ⟨svc, (frame_removeOldPTRRecords kd₁ old new).servicesStore ▸ hs, .inr ⟨new, ?_, hmem⟩⟩)
      simp [kd₁, storeUpdate]
    · obtain ⟨⟨svc, hs⟩, hmem⟩ := removeOldPTRRecords_reverseRecordMap_ne h₁
      exact .inl (mem_ownedIPs.mpr ⟨svc, hkey ▸ hs, .inr ⟨old, hkey ▸ hold, hmem⟩⟩)
  case endpointsDelete e =>
    obtain ⟨⟨svc, hs⟩, hmem⟩ := handleEndpointDelete_reverseRecordMap_ne h
    exact .inl (mem_ownedIPs.mpr ⟨svc, hs, .inr ⟨e, hv, hmem⟩⟩)

/-- `newService` installs every reverse record the stores call for at its own key. -/
theorem newService_agrees {kd : KubeDNS} {s : Service} {ip : String} {r : SkyService}
    (hs : kd.servicesStore s.key = some s) (h : kd.expectedPTR s.key ip = some r) :
    (kd.newService s).reverseRecordMap ip = some r := by
  obtain ⟨s', hs', hen, ⟨hip, hmem, rfl⟩ | ⟨hip, e, host, he, hh, rfl⟩⟩ :=
    expectedPTR_eq_some.mp h
  all_goals obtain rfl : s = s' := Option.some.inj (hs.symm.trans hs')
  · simp [newService, hen, hip, newPortalService, hmem, clusterIPPTR]
  · simp [newService, hen, hip, newHeadlessService, he, hh]

/-- The invariant: every reverse record the stores call for is in the index. -/
def ReverseAgrees (kd : KubeDNS) : Prop :=
  ∀ key ip r, kd.expectedPTR key ip = some r → kd.reverseRecordMap ip = some r

/-- At the event's own key a step installs every record the new stores call for. -/
theorem ReverseAgrees.step_own {kd : KubeDNS} {ev : Event} (hv : ev.Valid kd)
    (hi : kd.ReverseAgrees) {ip : String} {r : SkyService}
    (h : (kd.step ev).expectedPTR ev.key ip = some r) :
    (kd.step ev).reverseRecordMap ip = some r := by
  rw [expectedPTR_congr (congrFun (step_servicesStore kd ev) _)
    (congrFun (step_endpointsStore kd ev) _) ((step_domain kd ev).trans
      (storeUpdate_domain kd ev).symm)] at h
  cases ev <;> dsimp only [Event.key] at h
  case serviceAdd s => exact newService_agrees (by simp [storeUpdate]) h
  case serviceUpdate old new =>
    simp only [step, handle, updateService]
    split_ifs
    · have hf := frame_removeService (kd.storeUpdate (.serviceUpdate old new)) old
      refine newService_agrees (by rw [hf.servicesStore]; simp [storeUpdate]) ?_
      rwa [expectedPTR_congr (congrFun hf.servicesStore _) (congrFun hf.endpointsStore _)
        hf.domain]
    · exact newService_agrees (by simp [storeUpdate]) h
  case serviceDelete s => simp [expectedPTR, storeUpdate] at h
  case endpointsAdd e =>
    obtain ⟨svc, hs, hen, ⟨hip, hmem, rfl⟩ | ⟨hip, e', host, he, hh, rfl⟩⟩ :=
      expectedPTR_eq_some.mp h
    · rw [step, handle, handleEndpointAdd, addDNSUsingEndpoints_of_not_headless
        fun svc' hs' => .inl (Option.some.inj (hs.symm.trans hs') ▸ hip)]
      exact hi e.key ip _ (expectedPTR_eq_some.mpr ⟨svc, hs, hen, .inl ⟨hip, hmem, rfl⟩⟩)
    · obtain rfl : e = e' := by simpa [storeUpdate] using he
      rw [step, handle, handleEndpointAdd, addDNSUsingEndpoints_of_headless hs hip hen,
        generateRecordsForHeadlessService_reverseRecordMap, hh]
      rfl
  case endpointsUpdate old new =>
    obtain ⟨-, hkey⟩ := hv
    obtain ⟨svc, hs, hen, ⟨hip, hmem, rfl⟩ | ⟨hip, e', host, he, hh, rfl⟩⟩ :=
      expectedPTR_eq_some.mp h
    · have hnot : ∀ svc', (kd.storeUpdate (.endpointsUpdate old new)).servicesStore new.key =
          some svc' → isServiceIPSet svc' = true :=
        fun svc' hs' => Option.some.inj (hs.symm.trans hs') ▸ hip
      rw [step, handle, handleEndpointUpdate, removeOldPTRRecords_of_not_headless (hkey ▸ hnot),
        handleEndpointAdd, addDNSUsingEndpoints_of_not_headless fun svc' hs' => .inl (hnot svc' hs')]
      exact hi new.key ip _ (expectedPTR_eq_some.mpr ⟨svc, hs, hen, .inl ⟨hip, hmem, rfl⟩⟩)
    · obtain rfl : new = e' := by simpa [storeUpdate] using he
      have hf := frame_removeOldPTRRecords (kd.storeUpdate (.endpointsUpdate old new)) old new
      rw [step, handle, handleEndpointUpdate, handleEndpointAdd,
        addDNSUsingEndpoints_of_headless (hf.servicesStore ▸ hs) hip hen,
        generateRecordsForHeadlessService_reverseRecordMap, hh, headlessPTR_congr hf.domain]
      rfl
  case endpointsDelete e =>
    obtain ⟨svc, hs, hen, ⟨hip, hmem, rfl⟩ | ⟨hip, e', host, he, hh, rfl⟩⟩ :=
      expectedPTR_eq_some.mp h
    · rw [step, handle, handleEndpointDelete_of_not_headless
        fun svc' hs' => Option.some.inj (hs.symm.trans hs') ▸ hip]
      exact hi e.key ip _ (expectedPTR_eq_some.mpr ⟨svc, hs, hen, .inl ⟨hip, hmem, rfl⟩⟩)
    · simp [storeUpdate] at he

/-- **The step lemma.**  At other keys nothing the stores call for changes, and the step
moves only IPs its own key owns, which no other key owns before or after. -/
theorem ReverseAgrees.step {kd : KubeDNS} {ev : Event} (hv : ev.Valid kd)
    (hd : DisjointIPs kd) (hd' : DisjointIPs (kd.step ev)) (hi : kd.ReverseAgrees) :
    (kd.step ev).ReverseAgrees := by
  intro key ip r h
  by_cases hk : key = ev.key
  · subst hk
    exact hi.step_own hv h
  · have hs : (kd.step ev).servicesStore key = kd.servicesStore key := by
      rw [step_servicesStore, storeUpdate_servicesStore_of_ne kd hk]
    have he : (kd.step ev).endpointsStore key = kd.endpointsStore key := by
      rw [step_endpointsStore, storeUpdate_endpointsStore_of_ne kd hk]
    rw [expectedPTR_congr hs he (step_domain kd ev)] at h
    have hown := mem_ownedIPs_of_expectedPTR h
    rw [← hi key ip r h]
    by_contra hne
    rcases step_reverseRecordMap_ne hv hne with h₁ | h₁
    · exact hk (hd key ev.key ip hown h₁)
    · exact hk (hd' key ev.key ip (by rwa [ownedIPs_congr hs he]) h₁)

end KubeDNS

/-- No IP is owned twice in a state of a run. -/
theorem Reachable.disjoint {kd : KubeDNS} (h : Reachable kd) : DisjointIPs kd := by
  induction h with
  | init => intro k₁ k₂ ip h₁; simp [KubeDNS.ownedIPs, KubeDNS.newKubeDNS] at h₁
  | step _ _ hd' _ => exact hd'
  | offInformer _ _ _ ih => exact ih

theorem Reachable.reverseAgrees {kd : KubeDNS} (h : Reachable kd) : kd.ReverseAgrees := by
  induction h with
  | init => intro key ip r h; simp [KubeDNS.expectedPTR, KubeDNS.newKubeDNS] at h
  | step hr hv hd' ih => exact ih.step hv hr.disjoint hd'
  | offInformer _ _ _ ih => exact ih

/-- **The reverse index holds the projection of the stores.**  In every state of a valid
run in which no IP is owned twice, every reverse record the stores call for is in
`reverseRecordMap`. -/
theorem reachable_reverseRecordMap_agrees {kd : KubeDNS} (h : Reachable kd) (key : ObjectKey)
    (ip : String) (r : SkyService) (hexp : kd.expectedPTR key ip = some r) :
    kd.reverseRecordMap ip = some r :=
  h.reverseAgrees key ip r hexp

theorem reachable_reverseRecordMap_agrees_web :
    let s : Service := ⟨"web", "prod", .clusterIP, "10.0.0.5", [], [], ""⟩
    let kd := (KubeDNS.newKubeDNS "cluster.local").step (.serviceAdd s)
    Reachable kd ∧ kd.expectedPTR s.key "10.0.0.5" = some (kd.clusterIPPTR s) ∧
      kd.reverseRecordMap "10.0.0.5" = some (kd.clusterIPPTR s) := by
  intro s kd
  have hr : Reachable kd := .step (.init _) rfl (disjointIPs_of_servicesStore
    (@servicesStore_step_of_ne _ (.serviceAdd s) _ rfl fun _ _ => rfl))
  exact ⟨hr, by decide, reachable_reverseRecordMap_agrees hr s.key _ _ (by decide)⟩

/-! ## 5. Entries the stores no longer call for -/

/-- **The index keeps a dropped cluster IP.**  After a service's cluster IP changes from
`10.0.0.1` to `10.0.0.2`, `reverseRecordMap` still answers for `10.0.0.1`, which no current
service owns. -/
theorem reverseRecordMap_keeps_dropped_clusterIP :
    let a : Service := ⟨"web", "prod", .clusterIP, "10.0.0.1", [], [], ""⟩
    let a' : Service := ⟨"web", "prod", .clusterIP, "10.0.0.2", [], [], ""⟩
    let kd := ((KubeDNS.newKubeDNS "cluster.local").step (.serviceAdd a)).step
      (.serviceUpdate a a')
    Reachable kd ∧ (kd.reverseRecordMap "10.0.0.1").isSome ∧
      ∀ key, kd.expectedPTR key "10.0.0.1" = none := by
  intro a a' kd
  have h₁ := @servicesStore_step_of_ne (KubeDNS.newKubeDNS "cluster.local") (.serviceAdd a) _
    rfl fun _ _ => rfl
  have h₂ := @servicesStore_step_of_ne _ (.serviceUpdate a a') _ rfl h₁
  refine ⟨.step (.step (.init _) rfl (disjointIPs_of_servicesStore h₁)) ⟨by decide, rfl⟩
    (disjointIPs_of_servicesStore h₂), by decide, fun key => ?_⟩
  by_cases hk : key = a.key
  · subst hk
    decide
  · have hnone : kd.servicesStore key = none := h₂ key hk
    simp [KubeDNS.expectedPTR, hnone]

end KubeDns
