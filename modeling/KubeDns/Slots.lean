/-
# Every event writes one service's slot

The records of the service `ns/n` live in its slot: the leaf `n` of the node
`[domainPath..., "svc", ns]` (an ExternalName CNAME) and everything below that node's
child `n` (`InSlot`).  The handlers write the cache only through three whole-slot writes
(`SlotWrite`): `SetSubCache` of the child, `SetEntry` of the leaf, `DeletePath` of both.

`step_writes_only_its_slot` says that an event concerning `ns/n` changes the cache by a
sequence of such writes on the slot of `ns/n` alone, so every lookup outside it is
unchanged, and that it moves the two IP maps only at the cluster IPs of the service
objects and the address IPs of the endpoints objects involved.  For an endpoints event the
handler writes the slot of the service stored under the endpoints' key, so the statement
assumes the store keeps each service under its own key (`KeyedServices`), as the informer
does.
-/
import KubeDns.ReverseIndex

namespace KubeDns

/-! ## 1. Slot writes -/

/-- A write to the record slot of one service: its subtree swapped, its CNAME leaf set, or
the whole slot deleted. -/
inductive SlotWrite where
  | subtree (sub : TreeCache)
  | leaf (value : SkyService) (fqdn : String)
  | delete

/-- The write applied to the slot of the service `n` under the node `nsPath`. -/
def SlotWrite.apply (nsPath : List String) (n : String) (c : TreeCache) : SlotWrite → TreeCache
  | .subtree sub => c.setSubCache n sub nsPath
  | .leaf value fqdn => c.setEntry n value fqdn nsPath
  | .delete => (c.deletePath (nsPath ++ [n])).1

/-- The place `(p, k)` lies in the slot of `n` under `nsPath`. -/
def InSlot (nsPath : List String) (n : String) (p : List String) (k : String) : Prop :=
  (p = nsPath ∧ k = n) ∨ (nsPath ++ [n]).isPrefixOf p = true

/-- `c'` is `c` after a sequence of writes to the slot of `n` under `nsPath`. -/
def SlotUpdate (nsPath : List String) (n : String) (c c' : TreeCache) : Prop :=
  ∃ ws : List SlotWrite, c' = ws.foldl (fun c w => w.apply nsPath n c) c

theorem SlotWrite.find_apply {nsPath : List String} {n : String} {p : List String} {k : String}
    (h : ¬InSlot nsPath n p k) (c : TreeCache) (w : SlotWrite) :
    (w.apply nsPath n c).find p k = c.find p k := by
  simp only [InSlot, not_or, not_and, Bool.not_eq_true] at h
  cases w with
  | subtree sub => simp [apply, h.2]
  | leaf value fqdn =>
    rw [apply, TreeCache.find_setEntry, if_neg fun h' => h.1 h'.1 h'.2]
  | delete =>
    rw [apply, TreeCache.find_deletePath, if_neg]
    simpa [h.2] using h.1

theorem SlotUpdate.refl (nsPath : List String) (n : String) (c : TreeCache) :
    SlotUpdate nsPath n c c := ⟨[], rfl⟩

theorem SlotUpdate.single (nsPath : List String) (n : String) (c : TreeCache) (w : SlotWrite) :
    SlotUpdate nsPath n c (w.apply nsPath n c) := ⟨[w], rfl⟩

theorem SlotUpdate.trans {nsPath : List String} {n : String} {c₁ c₂ c₃ : TreeCache}
    (h₁ : SlotUpdate nsPath n c₁ c₂) (h₂ : SlotUpdate nsPath n c₂ c₃) :
    SlotUpdate nsPath n c₁ c₃ := by
  obtain ⟨ws₁, rfl⟩ := h₁
  obtain ⟨ws₂, rfl⟩ := h₂
  exact ⟨ws₁ ++ ws₂, by rw [List.foldl_append]⟩

/-- Slot writes leave every lookup outside the slot as it was. -/
theorem SlotUpdate.find_eq {nsPath : List String} {n : String} {c c' : TreeCache}
    (h : SlotUpdate nsPath n c c') {p : List String} {k : String} (hk : ¬InSlot nsPath n p k) :
    c'.find p k = c.find p k := by
  obtain ⟨ws, rfl⟩ := h
  induction ws generalizing c with
  | nil => rfl
  | cons w ws ih => rw [List.foldl_cons, ih, SlotWrite.find_apply hk]

/-- The slots of two services are disjoint. -/
theorem inSlot_unique (kd : KubeDNS) {ns ns' n n' : String} {p : List String} {k : String}
    (h : InSlot (kd.namespacePath ns) n p k) (h' : InSlot (kd.namespacePath ns') n' p k) :
    ns = ns' ∧ n = n' := by
  simp only [InSlot, KubeDNS.namespacePath, List.isPrefixOf_iff_prefix] at h h'
  rcases h with ⟨rfl, rfl⟩ | h <;> rcases h' with ⟨hp, rfl⟩ | h'
  · simp_all
  · have := h'.length_le
    simp at this
  · have := h.length_le
    simp [hp] at this
  · have := (List.prefix_of_prefix_length_le h h' (by simp)).eq_of_length (by simp)
    simpa using this

theorem KeyedServices.congr {kd kd' : KubeDNS} (hk : KeyedServices kd)
    (h : kd'.servicesStore = kd.servicesStore) : KeyedServices kd' :=
  fun key s hs => hk key s (h ▸ hs)

/-- A valid event concerns the key it delivers. -/
theorem Event.Valid.concerns {kd : KubeDNS} {ev : Event} (hv : ev.Valid kd) :
    ev.Concerns (ev.key.1, ev.key.2) := by
  cases ev with
  | serviceUpdate old new => exact ⟨hv.2.symm, rfl⟩
  | endpointsUpdate old new => exact ⟨hv.2.symm, rfl⟩
  | _ => rfl

/-- A step keeps the services store keyed. -/
theorem KeyedServices.step {kd : KubeDNS} (hk : KeyedServices kd) (ev : Event) :
    KeyedServices (kd.step ev) := by
  intro key s hs
  rw [KubeDNS.step_servicesStore] at hs
  have hupd : ∀ (s₀ : Service) (v : Option Service), (v = some s → s₀ = s) →
      Function.update kd.servicesStore s₀.key v key = some s → s.key = key := by
    intro s₀ v hv h
    by_cases hkey : key = s₀.key
    · subst hkey
      rw [Function.update_same] at h
      rw [← hv h]
    · rw [Function.update_noteq hkey] at h
      exact hk key s h
  cases ev with
  | serviceAdd s₀ => exact hupd s₀ _ (fun h => Option.some.inj h) hs
  | serviceUpdate _ s₀ => exact hupd s₀ _ (fun h => Option.some.inj h) hs
  | serviceDelete s₀ => exact hupd s₀ none (fun h => Option.noConfusion h) hs
  | endpointsAdd => exact hk key s hs
  | endpointsUpdate => exact hk key s hs
  | endpointsDelete => exact hk key s hs

namespace KubeDNS

/-! ## 2. The cache writes of each handler -/

theorem newService_slotUpdate (kd : KubeDNS) (s : Service) :
    SlotUpdate (kd.namespacePath s.namespace) s.name kd.cache (kd.newService s).cache := by
  unfold newService newHeadlessService
  split_ifs
  · exact .single _ _ _ (.leaf _ _)
  · split
    · exact .single _ _ _ (.subtree _)
    · exact .refl _ _ _
  · exact .single _ _ _ (.subtree _)

theorem removeService_slotUpdate (kd : KubeDNS) (s : Service) :
    SlotUpdate (kd.namespacePath s.namespace) s.name kd.cache (kd.removeService s).cache := by
  have h : (kd.removeService s).cache = SlotWrite.delete.apply (kd.namespacePath s.namespace)
      s.name kd.cache := by
    unfold removeService
    split_ifs <;> simp [SlotWrite.apply, namespacePath]
  exact h ▸ .single _ _ _ _

theorem addDNSUsingEndpoints_slotUpdate {kd : KubeDNS} (hk : KeyedServices kd) (e : Endpoints) :
    SlotUpdate (kd.namespacePath e.namespace) e.name kd.cache
      (kd.addDNSUsingEndpoints e).cache := by
  unfold addDNSUsingEndpoints getServiceFromEndpoints
  split
  · next svc hs =>
    obtain ⟨hns, hn⟩ := Prod.mk.inj (hk _ _ hs)
    split_ifs
    · exact .refl _ _ _
    · rw [← hns, ← hn]
      exact .single _ _ _ (.subtree _)
  · exact .refl _ _ _

theorem removeOldPTRRecords_cache (kd : KubeDNS) (old new : Endpoints) :
    (kd.removeOldPTRRecords old new).cache = kd.cache := by
  unfold removeOldPTRRecords
  split
  · split_ifs <;> rfl
  · rfl

theorem handleEndpointDelete_cache (kd : KubeDNS) (e : Endpoints) :
    (kd.handleEndpointDelete e).cache = kd.cache := by
  unfold handleEndpointDelete
  split
  · split_ifs <;> rfl
  · rfl

/-- The cache writes of a step, on the slot of the key the event concerns. -/
theorem step_slotUpdate {kd : KubeDNS} (hk : KeyedServices kd) {ev : Event} {ns n : String}
    (hc : ev.Concerns (ns, n)) :
    SlotUpdate (kd.namespacePath ns) n kd.cache (kd.step ev).cache := by
  cases ev with
  | serviceAdd s =>
    obtain ⟨rfl, rfl⟩ := Prod.mk.inj hc
    exact newService_slotUpdate _ s
  | serviceUpdate old new =>
    obtain ⟨hold, hnew⟩ := hc
    obtain ⟨rfl, rfl⟩ := Prod.mk.inj hnew
    obtain ⟨hns, hn⟩ := Prod.mk.inj hold
    simp only [step, handle, updateService]
    split_ifs
    · have hf := frame_removeService (kd.storeUpdate (.serviceUpdate old new)) old
      have h₁ := removeService_slotUpdate (kd.storeUpdate (.serviceUpdate old new)) old
      have h₂ := newService_slotUpdate
        ((kd.storeUpdate (.serviceUpdate old new)).removeService old) new
      rw [hns, hn] at h₁
      rw [namespacePath_congr hf.domain] at h₂
      exact h₁.trans h₂
    · exact newService_slotUpdate _ new
  | serviceDelete s =>
    obtain ⟨rfl, rfl⟩ := Prod.mk.inj hc
    exact removeService_slotUpdate _ s
  | endpointsAdd e =>
    obtain ⟨rfl, rfl⟩ := Prod.mk.inj hc
    exact @addDNSUsingEndpoints_slotUpdate (kd.storeUpdate (.endpointsAdd e)) hk e
  | endpointsUpdate old new =>
    obtain ⟨-, hnew⟩ := hc
    obtain ⟨rfl, rfl⟩ := Prod.mk.inj hnew
    have hf := frame_removeOldPTRRecords (kd.storeUpdate (.endpointsUpdate old new)) old new
    have h := @addDNSUsingEndpoints_slotUpdate
      ((kd.storeUpdate (.endpointsUpdate old new)).removeOldPTRRecords old new)
      (hk.congr hf.servicesStore) new
    rw [namespacePath_congr hf.domain, removeOldPTRRecords_cache] at h
    exact h
  | endpointsDelete e =>
    rw [step, handle, handleEndpointDelete_cache]
    exact .refl _ _ _

/-! ## 3. The IP maps -/

/-- `kd'` agrees with `kd` at `ip` in both IP maps. -/
def SameAt (kd kd' : KubeDNS) (ip : String) : Prop :=
  kd'.reverseRecordMap ip = kd.reverseRecordMap ip ∧
    kd'.clusterIPServiceMap ip = kd.clusterIPServiceMap ip

theorem SameAt.trans {kd₁ kd₂ kd₃ : KubeDNS} {ip : String} (h₁ : SameAt kd₁ kd₂ ip)
    (h₂ : SameAt kd₂ kd₃ ip) : SameAt kd₁ kd₃ ip :=
  ⟨h₂.1.trans h₁.1, h₂.2.trans h₁.2⟩

theorem mem_addressIPs_of_mem_hostnamedIPs {e : Endpoints} {ip : String}
    (h : ip ∈ hostnamedIPs e) : ip ∈ addressIPs e := by
  obtain ⟨a, ha, -, rfl⟩ := mem_hostnamedIPs.mp h
  exact List.mem_map_of_mem _ ha

theorem mem_getClusterIPs_of_mem_owned {s : Service} {ip : String}
    (h : ip ∈ ownedClusterIPs s) : ip ∈ getClusterIPs s := by
  unfold ownedClusterIPs at h
  split_ifs at h
  · exact h
  · simp at h

theorem newService_sameAt {kd : KubeDNS} {s : Service} {ip : String}
    (hc : ip ∉ getClusterIPs s) (he : ∀ e, kd.endpointsStore s.key = some e → ip ∉ addressIPs e) :
    SameAt kd (kd.newService s) ip := by
  refine ⟨by_contra fun h => ?_, ?_⟩
  · rcases newService_reverseRecordMap_ne h with h | ⟨e, hse, h⟩
    · exact hc (mem_getClusterIPs_of_mem_owned h)
    · exact he e hse (mem_addressIPs_of_mem_hostnamedIPs h)
  · unfold newService newHeadlessService
    split_ifs
    · rfl
    · split <;> rfl
    · simp [newPortalService, hc]

theorem removeService_sameAt {kd : KubeDNS} {s : Service} {ip : String}
    (hc : ip ∉ getClusterIPs s) : SameAt kd (kd.removeService s) ip := by
  unfold removeService
  split_ifs <;> simp [SameAt, hc]

theorem addDNSUsingEndpoints_sameAt {kd : KubeDNS} {e : Endpoints} {ip : String}
    (h : ip ∉ addressIPs e) : SameAt kd (kd.addDNSUsingEndpoints e) ip := by
  refine ⟨by_contra fun h' => h (mem_addressIPs_of_mem_hostnamedIPs
    (addDNSUsingEndpoints_reverseRecordMap_ne h').2), ?_⟩
  unfold addDNSUsingEndpoints
  split
  · split_ifs <;> rfl
  · rfl

theorem removeOldPTRRecords_sameAt {kd : KubeDNS} {old new : Endpoints} {ip : String}
    (h : ip ∉ addressIPs old) : SameAt kd (kd.removeOldPTRRecords old new) ip := by
  refine ⟨by_contra fun h' => h (mem_addressIPs_of_mem_hostnamedIPs
    (removeOldPTRRecords_reverseRecordMap_ne h').2), ?_⟩
  unfold removeOldPTRRecords
  split
  · split_ifs <;> rfl
  · rfl

theorem handleEndpointDelete_sameAt {kd : KubeDNS} {e : Endpoints} {ip : String}
    (h : ip ∉ addressIPs e) : SameAt kd (kd.handleEndpointDelete e) ip := by
  refine ⟨by_contra fun h' => h (mem_addressIPs_of_mem_hostnamedIPs
    (handleEndpointDelete_reverseRecordMap_ne h').2), ?_⟩
  unfold handleEndpointDelete
  split
  · split_ifs <;> rfl
  · rfl

/-- A step moves the IP maps only at the IPs its event concerns. -/
theorem step_sameAt {kd : KubeDNS} {ev : Event} {ip : String} (h : ip ∉ ev.touchedIPs kd) :
    SameAt kd (kd.step ev) ip := by
  have hstored : ∀ key, ip ∉ ((kd.endpointsStore key).map addressIPs).getD [] →
      ∀ e, kd.endpointsStore key = some e → ip ∉ addressIPs e := fun key h e he => by
    simpa [he] using h
  cases ev with
  | serviceAdd s =>
    simp only [Event.touchedIPs, List.mem_append, not_or] at h
    exact newService_sameAt h.1 (hstored _ h.2)
  | serviceUpdate old new =>
    simp only [Event.touchedIPs, List.mem_append, not_or] at h
    set kd₁ := kd.storeUpdate (.serviceUpdate old new)
    show SameAt kd₁ (kd₁.updateService old new) ip
    unfold updateService
    split_ifs
    · exact (@removeService_sameAt kd₁ _ _ h.1.1).trans (newService_sameAt h.1.2 fun e he =>
        hstored _ h.2 e ((frame_removeService kd₁ old).endpointsStore ▸ he))
    · exact newService_sameAt h.1.2 (hstored _ h.2)
  | serviceDelete s =>
    simp only [Event.touchedIPs, List.mem_append, not_or] at h
    exact removeService_sameAt h.1
  | endpointsAdd e => exact addDNSUsingEndpoints_sameAt h
  | endpointsUpdate old new =>
    simp only [Event.touchedIPs, List.mem_append, not_or] at h
    set kd₁ := kd.storeUpdate (.endpointsUpdate old new)
    show SameAt kd₁ ((kd₁.removeOldPTRRecords old new).handleEndpointAdd new) ip
    exact (@removeOldPTRRecords_sameAt kd₁ _ new _ h.1).trans (addDNSUsingEndpoints_sameAt h.2)
  | endpointsDelete e => exact handleEndpointDelete_sameAt h

end KubeDNS

/-- **Every event writes one service's slot.**  An event concerning `ns/n` changes the cache
by whole-slot writes (`SetSubCache`, `SetEntry`, `DeletePath`) on the slot of `ns/n` only,
so every lookup outside that slot is unchanged; and it moves the reverse index and the
cluster IP map only at the IPs of the objects it concerns. -/
theorem step_writes_only_its_slot (kd : KubeDNS) (hk : KeyedServices kd) (ev : Event)
    (ns n : String) (hc : ev.Concerns (ns, n)) :
    (∀ p k, ¬InSlot (kd.namespacePath ns) n p k → (kd.step ev).cache.find p k = kd.cache.find p k) ∧
      SlotUpdate (kd.namespacePath ns) n kd.cache (kd.step ev).cache ∧
      ∀ ip, ip ∉ ev.touchedIPs kd →
        (kd.step ev).reverseRecordMap ip = kd.reverseRecordMap ip ∧
          (kd.step ev).clusterIPServiceMap ip = kd.clusterIPServiceMap ip :=
  ⟨fun _ _ h => (KubeDNS.step_slotUpdate hk hc).find_eq h, KubeDNS.step_slotUpdate hk hc,
    fun _ h => KubeDNS.step_sameAt h⟩

theorem step_writes_only_its_slot_web :
    let s : Service := ⟨"web", "prod", .clusterIP, "10.0.0.5", [], [], ""⟩
    let kd := KubeDNS.newKubeDNS "cluster.local"
    KeyedServices kd ∧ (Event.serviceAdd s).Concerns ("prod", "web") ∧
      SlotUpdate (kd.namespacePath "prod") "web" kd.cache (kd.step (.serviceAdd s)).cache := by
  intro s kd
  have hk : KeyedServices kd := fun _ _ h => Option.noConfusion h
  exact ⟨hk, rfl, (step_writes_only_its_slot kd hk (.serviceAdd s) "prod" "web" rfl).2.1⟩

end KubeDns
