/-
# What `Records` promises SkyDNS

SkyDNS calls `Records(name, exact)`, answers NXDOMAIN or SERVFAIL on an error and builds the
answer section from the list.  The doc comment of `Records`: "If exact is true, a single
record matching the given name is returned, otherwise all records stored under the subtree
matching the name are returned."  Every branch that could answer nothing answers
`keyNotFound` instead.

* `getRecordsForPath_exact_length`: an exact lookup finds at most one record (none for
  an empty last label);
* `federationRecords_eq_ok`: the federation redirect answers one record `{Host: name}`;
* `records_answer_shape`: for every state, name and node list, `Records` never answers
  an empty list, and an exact query answers exactly one record.
-/
import KubeDns.Startup

namespace KubeDns

/-- One step of a `Go` sequence that answered: its first call answered too. -/
theorem Go.bind_eq_ok {α β : Type} {x : Go α} {f : α → Go β} {b : β} :
    x >>= f = .ok b ↔ ∃ a, x = .ok a ∧ f a = .ok b := by
  cases x <;> simp

namespace KubeDNS

variable {kd : KubeDNS} {rs : List SkyService}

/-- An exact lookup finds at most one record: the pod's A record, or the leaf at the
path. -/
theorem getRecordsForPath_exact_length {path : List String}
    (h : kd.getRecordsForPath path true = .ok rs) : rs.length ≤ 1 := by
  rw [getRecordsForPath, isPodRecord_eq, pure_bind] at h
  split at h
  · obtain ⟨ip, -, h⟩ := Go.bind_eq_ok.1 h
    cases h
    rfl
  · obtain ⟨key, -, h⟩ := Go.bind_eq_ok.1 h
    split at h
    · cases h
      exact Nat.zero_le _
    · obtain ⟨parent, -, h⟩ := Go.bind_eq_ok.1 h
      split at h <;> cases h
      rfl

/-- The federation redirect answers one record, `{Host: name}`. -/
theorem federationRecords_eq_ok {nodeList : NodeList} {queryPath : List String}
    (h : (kd.federationRecords nodeList queryPath).1 = .ok rs) : ∃ name, rs = [hostRecord name] := by
  unfold federationRecords at h
  dsimp only at h
  split at h
  · cases h
  · cases h
  · split at h
    · cases h
    · split at h
      · cases h
      · obtain ⟨fed, -, h⟩ := Go.bind_eq_ok.1 h
        obtain ⟨feds, -, h⟩ := Go.bind_eq_ok.1 h
        split_ifs at h <;> cases h <;> exact ⟨_, rfl⟩

/-- **`Records` never answers an empty list, and an exact query answers one record.**  For
every state, name and node list: an answer is not empty (nothing found is `keyNotFound`),
and with `exact` it is exactly one record. -/
theorem records_answer_shape (nodeList : NodeList) (name : String) (exact : Bool)
    (h : (kd.records nodeList name exact).1 = .ok rs) :
    rs ≠ [] ∧ (exact = true → rs.length = 1) := by
  unfold records at h
  split at h
  · cases h
  · next fs path records hl =>
    obtain ⟨rfl, -⟩ := (localLookup_some_iff kd _ exact).1 ⟨_, _, _, hl⟩
    refine ⟨?_, nofun⟩
    unfold recordsForFederation at h
    split_ifs at h
    · cases h
      exact List.cons_ne_nil _ _
    · obtain ⟨n, rfl⟩ := federationRecords_eq_ok h
      exact List.cons_ne_nil _ _
  · next path records hl =>
    split_ifs at h with hnil
    cases h
    refine ⟨hnil, fun hex => ?_⟩
    subst hex
    rw [@localLookup_of_not_federation kd _ true rfl] at hl
    obtain ⟨found, hfound, hpure⟩ := Go.bind_eq_ok.1 hl
    cases hpure
    have := getRecordsForPath_exact_length hfound
    have := List.length_pos.2 hnil
    omega

/-- A pod query, asked exactly, answers the pod's one A record. -/
theorem records_answer_shape_pod :
    let r := (getSkyMsg "1.2.3.4" 0).1
    ((newKubeDNS "cluster.local").records (.ok []) "1-2-3-4.default.pod.cluster.local." true).1 =
      .ok [r] ∧ [r] ≠ [] ∧ (true = true → [r].length = 1) := by
  intro r
  have h : ((newKubeDNS "cluster.local").records (.ok []) "1-2-3-4.default.pod.cluster.local."
      true).1 = .ok [r] := by decide
  exact ⟨h, records_answer_shape _ _ _ h⟩

end KubeDNS

end KubeDns
