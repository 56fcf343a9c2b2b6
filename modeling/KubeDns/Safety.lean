/-
# The query path never panics

`Records(name, exact)` and `ReverseRecord(name)` take an arbitrary string from the network
and index and slice its labels: in `isPodRecord`, `getPodIP`, `isFederationQuery`, the
exact branch of `getRecordsForPath`, the label removal of `Records` and the re-slice of
`federationRecords`.  Each index is behind a length test (`isPodRecord_eq`,
`isFederationQuery_ok`), behind the shape the federation test has established
(`localLookup_federation`, `federationRecords_eq`), or on a label list that `strings.Split`
never leaves empty; `kd.config` is read only once `Start` has set it.

So every call returns records or an error, for every name (empty, all dots, with empty or
`"*"` labels, of any length), both values of `exact`, every domain and every state whose
configuration is set (`query_never_panics`).  No reachability is needed: the cache is typed,
so the assertion `record.(*skymsg.Service)` of `getRecordsForPath` cannot fail, whatever
the handlers stored.
-/
import KubeDns.Federation

namespace KubeDns

namespace KubeDNS

variable {kd : KubeDNS}

/-! ## 1. One lemma per function of the query path -/

/-- A choice between two computations that answer answers. -/
theorem exists_ok_ite {α : Type} {c : Prop} [Decidable c] {x y : Go α} (hx : ∃ a, x = .ok a)
    (hy : ∃ a, y = .ok a) : ∃ a, (if c then x else y) = .ok a := by
  split_ifs
  exacts [hx, hy]

/-- With the configuration set, `isFederationQuery` answers. -/
theorem isFederationQuery_ok (hcfg : kd.config ≠ none) (path : List String) :
    ∃ b, kd.isFederationQuery path = .ok b := by
  unfold isFederationQuery
  by_cases hlen : path.length = 4 + kd.domainPath.length
  · obtain ⟨s, ns, f, sv, rest, rfl, hrest⟩ := exists_cons4 hlen
    obtain ⟨cfg, hc⟩ := Option.ne_none_iff_exists'.1 hcfg
    rw [if_neg (not_not.mpr hlen)]
    have hdom := domainLabelsMatch_eq (s :: ns :: f :: sv :: rest) 0 kd.domainPath
      (by simp; omega)
    simp [index, hdom, federations, hc, -Bool.exists_bool]
    -- every guard either answers `false` or passes on; the last step answers the lookup
    repeat' first | exact ⟨_, rfl⟩ | apply exists_ok_ite
  · exact ⟨false, if_pos hlen⟩

theorem getPodIP_returns {path : List String} (h : path ≠ []) : (getPodIP path).Returns := by
  unfold getPodIP
  rw [index_last h, pure_bind]
  dsimp only
  split <;> simp

/-- `getRecordsForPath` returns on every non-empty path. -/
theorem getRecordsForPath_returns {path : List String} (h : path ≠ []) (exact : Bool) :
    (kd.getRecordsForPath path exact).Returns := by
  unfold getRecordsForPath
  rw [isPodRecord_eq, pure_bind]
  split
  · exact (getPodIP_returns h).bind fun _ _ => trivial
  split
  · rw [index_last h, pure_bind]
    split
    · trivial
    rw [sliceTo_last h, pure_bind]
    split <;> simp
  · trivial

/-- The local lookup returns on every label list `strings.Split` can produce. -/
theorem localLookup_returns (hcfg : kd.config ≠ none) {segments : List String}
    (hne : segments ≠ []) (exact : Bool) : (kd.localLookup segments exact).Returns := by
  by_cases hfed : exact = false ∧ kd.isFederationQuery segments = .ok true
  · obtain ⟨_, _, _, h⟩ := (localLookup_some_iff kd segments exact).2 hfed
    rw [h]
    trivial
  have hrec : ∀ e, (do
      let rs ← kd.getRecordsForPath (reverseArray segments) e
      pure ((none : Option (List String)), reverseArray segments, rs) : Go _).Returns := fun e =>
    (getRecordsForPath_returns (by simpa [reverseArray_eq_reverse] using hne) e).bind
      fun _ _ => Go.returns_pure _
  unfold localLookup
  cases exact
  · obtain ⟨b, hb⟩ := isFederationQuery_ok hcfg segments
    cases b
    · simpa [hb] using hrec false
    · exact absurd ⟨rfl, hb⟩ hfed
  · simpa using hrec true

/-- `recordsForFederation` returns on the segments of a federation query. -/
theorem recordsForFederation_returns (nodeList : NodeList)
    (records : List SkyService) (path : List String) {segments : List String}
    (hfed : kd.isFederationQuery segments = .ok true) :
    (kd.recordsForFederation nodeList records path false segments).1.Returns := by
  obtain ⟨s, ns, f, hseg, -, -, -, cfg, hc, -⟩ := (isFederationQuery_eq_ok_true kd _).1 hfed
  unfold recordsForFederation
  split
  · trivial
  rw [if_pos (show (!false) = true from rfl), federationRecords_eq hseg hfed hc]
  split
  · trivial
  · dsimp only
    split <;> trivial

/-- **The query path never panics.**  With the configuration set, `Records(name, exact)`
and `ReverseRecord(name)` return records or an error for every query string. -/
theorem query_never_panics (kd : KubeDNS) (hcfg : kd.config ≠ none) (nodeList : NodeList)
    (name : String) (exact : Bool) :
    (kd.records nodeList name exact).1.Returns ∧ (kd.reverseRecord name).Returns := by
  have hne := Strings.split_ne_nil (Strings.trimRight name '.') '.'
  have hlook := localLookup_returns hcfg hne exact
  refine ⟨?_, ?_⟩
  · unfold records
    cases hl : kd.localLookup (Strings.split (Strings.trimRight name '.') '.') exact with
    | error e =>
      rw [hl] at hlook
      cases e with
      | error _ => trivial
      | panic _ => exact hlook.elim
    | ok v =>
      obtain ⟨_ | fs, path, rs⟩ := v
      · dsimp only
        split <;> trivial
      · obtain ⟨rfl, hfed⟩ := (localLookup_some_iff kd _ exact).1 ⟨_, _, _, hl⟩
        obtain ⟨s, ns, f, hseg, -⟩ := (isFederationQuery_eq_ok_true kd _).1 hfed
        rw [localLookup_federation hseg hfed] at hl
        cases hl
        exact recordsForFederation_returns nodeList _ _ hfed
  · unfold reverseRecord
    dsimp only
    split
    · trivial
    · split <;> trivial

end KubeDNS

/-- The empty name, asked exactly, on a configured engine. -/
theorem query_never_panics_empty_name :
    let kd : KubeDNS := { KubeDNS.newKubeDNS "cluster.local" with config := some ⟨[], []⟩ }
    kd.config ≠ none ∧ (kd.records (.ok []) "" true).1.Returns ∧ (kd.reverseRecord "").Returns :=
  ⟨Option.some_ne_none _, KubeDNS.query_never_panics _ (Option.some_ne_none _) (.ok []) "" true⟩

end KubeDns
