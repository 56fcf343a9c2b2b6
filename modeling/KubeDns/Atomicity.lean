/-
# What a reader sees between two write sections

A reader (`Records` or `ReverseRecord`) holds `cacheLock` for reading, so it runs between
two write sections of a handler.  Every handler writes in one section except two
(`Handlers.lean`): `handleEndpointUpdate` deletes reverse records in one section and then
runs `handleEndpointAdd`, and the ExternalName flip of `updateService` runs
`removeService`'s section and then `newService`'s (`midStates`).  Before the handler the
informer has already written its store, so the state a reader can see before the handler is
`kd.storeUpdate ev`, and the one after it is `kd.step ev`.

* `answer_servicesStore`: readers never look at the services store;
* `removeOldPTRRecords_answer`: between the two sections of `handleEndpointUpdate`, every
  query is answered as before the handler or as after it, since the first section drops
  only reverse records of IPs that no new address names, and the second adds none back for
  them;
* `flip_midState_answer`: between the two sections of the flip a reader sees the service
  deleted, as the delete event would leave it;
* `reader_sees_before_after_or_deleted` assembles the two; `flip_midState_third_answer`
  shows that the flip's middle answer can differ from both the answer before and the answer
  after: an ExternalName service turned cluster-IP vanishes from its namespace's listing
  in between.
-/
import KubeDns.Safety

namespace KubeDns

/-- A reader: `Records(name, exact)` or `ReverseRecord(name)`. -/
inductive Query where
  | records (name : String) (exact : Bool)
  | reverse (name : String)
  deriving DecidableEq, Repr

namespace KubeDNS

/-- The answer a reader gets, given the API's node list for a cold zone lookup. -/
def answer (kd : KubeDNS) (nodeList : NodeList) : Query → Go (List SkyService)
  | .records name exact => (kd.records nodeList name exact).1
  | .reverse name => (kd.reverseRecord name).map fun r => [r]

/-- The states a reader can see strictly between two write sections of the event's
handler: after `removeService(old)` in an ExternalName flip, after the deleting section of
`handleEndpointUpdate`. -/
def midStates (kd : KubeDNS) : Event → List KubeDNS
  | .serviceUpdate old new =>
    if (new.type == .externalName) != (old.type == .externalName) then
      [(kd.storeUpdate (.serviceUpdate old new)).removeService old]
    else []
  | .endpointsUpdate old new =>
    [(kd.storeUpdate (.endpointsUpdate old new)).removeOldPTRRecords old new]
  | _ => []

/-! ## 1. What a reader reads -/

/-- Readers never look at the services store. -/
theorem answer_servicesStore (kd : KubeDNS) (ss : ObjectKey → Option Service) :
    { kd with servicesStore := ss }.answer = kd.answer := rfl

/-- Forward queries never look at the reverse index. -/
theorem answer_records_reverseRecordMap (kd : KubeDNS) (rev : String → Option SkyService)
    (nodeList : NodeList) (name : String) (exact : Bool) :
    { kd with reverseRecordMap := rev }.answer nodeList (.records name exact) =
      kd.answer nodeList (.records name exact) := rfl

/-- A reverse query reads the reverse index at the IP of its name only. -/
theorem answer_reverse_congr {kd kd' : KubeDNS} {name : String}
    (h : kd'.reverseRecordMap (extractIP name).1 = kd.reverseRecordMap (extractIP name).1)
    (nodeList : NodeList) :
    kd'.answer nodeList (.reverse name) = kd.answer nodeList (.reverse name) := by
  simp [answer, reverseRecord, h]

/-! ## 2. `handleEndpointUpdate` -/

theorem removeOldPTRRecords_eq (kd : KubeDNS) (old new : Endpoints) :
    kd.removeOldPTRRecords old new =
      { kd with reverseRecordMap := (kd.removeOldPTRRecords old new).reverseRecordMap } := by
  unfold removeOldPTRRecords
  split
  · split_ifs <;> rfl
  · rfl

/-- The deleting section keeps the reverse record of every IP a new address names. -/
theorem removeOldPTRRecords_reverseRecordMap_of_mem {kd : KubeDNS} {old new : Endpoints}
    {ip : String} (h : ip ∈ hostnamedIPs new) :
    (kd.removeOldPTRRecords old new).reverseRecordMap ip = kd.reverseRecordMap ip := by
  unfold removeOldPTRRecords
  split
  · split_ifs <;> simp [oldAddressMap_eq, h]
  · rfl

/-- `handleEndpointAdd` writes no reverse record for an IP no address of `e` names. -/
theorem handleEndpointAdd_reverseRecordMap_of_not_mem {kd : KubeDNS} {e : Endpoints}
    {ip : String} (h : ip ∉ hostnamedIPs e) :
    (kd.handleEndpointAdd e).reverseRecordMap ip = kd.reverseRecordMap ip := by
  have hnone : lastHostname (addresses e) ip = none :=
    Option.not_isSome_iff_eq_none.1 fun hs => h (lastHostname_isSome_iff.1 hs)
  unfold handleEndpointAdd addDNSUsingEndpoints
  split
  · split_ifs <;> simp [hnone]
  · rfl

/-- **Between the two sections of `handleEndpointUpdate`** a reader gets the answer of the
state before the handler or the answer of the state after it. -/
theorem removeOldPTRRecords_answer (kd : KubeDNS) (old new : Endpoints) (nodeList : NodeList)
    (q : Query) :
    (kd.removeOldPTRRecords old new).answer nodeList q = kd.answer nodeList q ∨
      (kd.removeOldPTRRecords old new).answer nodeList q =
        ((kd.removeOldPTRRecords old new).handleEndpointAdd new).answer nodeList q := by
  cases q with
  | records name exact =>
    left
    rw [removeOldPTRRecords_eq]
    exact answer_records_reverseRecordMap kd _ nodeList name exact
  | reverse name =>
    by_cases h : (extractIP name).1 ∈ hostnamedIPs new
    · exact .inl (answer_reverse_congr (removeOldPTRRecords_reverseRecordMap_of_mem h) nodeList)
    · exact .inr (answer_reverse_congr (handleEndpointAdd_reverseRecordMap_of_not_mem h).symm
        nodeList)

/-! ## 3. The ExternalName flip of `updateService` -/

/-- **Between the two sections of the flip** a reader sees the old service deleted: the
answer of the state the delete event of `old` leaves. -/
theorem flip_midState_answer (kd : KubeDNS) (old new : Service) (nodeList : NodeList)
    (q : Query) :
    ((kd.storeUpdate (.serviceUpdate old new)).removeService old).answer nodeList q =
      (kd.step (.serviceDelete old)).answer nodeList q := by
  have h : (kd.storeUpdate (.serviceUpdate old new)).removeService old =
      { kd.step (.serviceDelete old) with
        servicesStore := (kd.storeUpdate (.serviceUpdate old new)).servicesStore } := by
    simp only [step, storeUpdate, handle, removeService]
    split_ifs <;> rfl
  rw [h, answer_servicesStore]

end KubeDNS

/-- **What a reader sees between two write sections.**  In every state, for every event and
every query, a reader between two write sections of the handler gets the answer of the
state before the handler or of the state after it, except between the two sections of an
ExternalName flip, where it gets the answer of the state in which the old service was
deleted. -/
theorem reader_sees_before_after_or_deleted (kd : KubeDNS) (ev : Event) (mid : KubeDNS)
    (hmid : mid ∈ kd.midStates ev) (nodeList : NodeList) (q : Query) :
    (mid.answer nodeList q = (kd.storeUpdate ev).answer nodeList q ∨
      mid.answer nodeList q = (kd.step ev).answer nodeList q) ∨
    ∃ old new, ev = .serviceUpdate old new ∧
      mid.answer nodeList q = (kd.step (.serviceDelete old)).answer nodeList q := by
  cases ev with
  | serviceUpdate old new =>
    simp only [KubeDNS.midStates] at hmid
    split_ifs at hmid
    · rw [List.mem_singleton.1 hmid]
      exact .inr ⟨old, new, rfl, KubeDNS.flip_midState_answer kd old new nodeList q⟩
    · exact absurd hmid (List.not_mem_nil _)
  | endpointsUpdate old new =>
    rw [List.mem_singleton.1 hmid]
    exact .inl (KubeDNS.removeOldPTRRecords_answer _ old new nodeList q)
  | serviceAdd | serviceDelete | endpointsAdd | endpointsDelete =>
    exact absurd hmid (List.not_mem_nil _)

/-- The flip of `prod/web` from ExternalName to cluster IP, and the listing of its
namespace. -/
theorem reader_sees_before_after_or_deleted_flip :
    let a : Service := ⟨"web", "prod", .externalName, "", [], [], "example.com"⟩
    let b : Service := ⟨"web", "prod", .clusterIP, "10.0.0.5", [], [], ""⟩
    let kd := (KubeDNS.newKubeDNS "cluster.local").step (.serviceAdd a)
    let mid := (kd.storeUpdate (.serviceUpdate a b)).removeService a
    let q := Query.records "prod.svc.cluster.local." false
    mid ∈ kd.midStates (.serviceUpdate a b) ∧
      ((mid.answer (.ok []) q = (kd.storeUpdate (.serviceUpdate a b)).answer (.ok []) q ∨
        mid.answer (.ok []) q = (kd.step (.serviceUpdate a b)).answer (.ok []) q) ∨
      ∃ old new, Event.serviceUpdate a b = .serviceUpdate old new ∧
        mid.answer (.ok []) q = (kd.step (.serviceDelete old)).answer (.ok []) q) := by
  intro a b kd mid q
  have hmid : mid ∈ kd.midStates (.serviceUpdate a b) := List.mem_singleton_self _
  exact ⟨hmid, reader_sees_before_after_or_deleted kd _ mid hmid (.ok []) q⟩

/-- **A third answer.**  `prod/web` is an ExternalName service and is updated to a
cluster-IP service.  The listing `prod.svc.cluster.local.` answers the CNAME before the
handler and the A record after it, but between the handler's two sections it answers
"not found". -/
theorem flip_midState_third_answer :
    let a : Service := ⟨"web", "prod", .externalName, "", [], [], "example.com"⟩
    let b : Service := ⟨"web", "prod", .clusterIP, "10.0.0.5", [], [], ""⟩
    let kd := (KubeDNS.newKubeDNS "cluster.local").step (.serviceAdd a)
    let q := Query.records "prod.svc.cluster.local." false
    Reachable kd ∧ (Event.serviceUpdate a b).Valid kd ∧
      ∃ mid ∈ kd.midStates (.serviceUpdate a b),
        mid.answer (.ok []) q ≠ (kd.storeUpdate (.serviceUpdate a b)).answer (.ok []) q ∧
        mid.answer (.ok []) q ≠ (kd.step (.serviceUpdate a b)).answer (.ok []) q := by
  intro a b kd q
  refine ⟨.step (.init _) rfl (disjointIPs_of_servicesStore
    (@servicesStore_step_of_ne _ (.serviceAdd a) _ rfl fun _ _ => rfl)), by decide,
    _, List.mem_singleton_self _, by decide, by decide⟩

end KubeDns
