/-
# Federation queries

A query `s.ns.f.svc.<domain>` with `f` a federation of the configuration is answered by
`Records` either with a CNAME to the local service `s.ns.svc.<domain>.` or, when the local
lookup finds no record of a service with endpoints, with a CNAME to
`s.ns.f.svc.<zone>.<region>.<federation domain>.`.  The labels of the name pass through
`ReverseArray` four times, the splice `append(segments[:2], segments[3:]...)`, a re-slice and
two appends on the way.

* `isFederationQuery_eq_ok_true` says which label lists `isFederationQuery` accepts, from
  `domainLabelsMatch_eq` (its loop compares the domain labels read backwards);
* `records_federation_rewrite`: `Records` takes the federation branch exactly for
  non-exact federation queries, looks up `domainPath ++ ["svc", ns, s]`, and answers with
  the two CNAMEs above, for every domain of any number of labels;
* `records_federation_local_without_endpoints`: the local test counts every record whose
  Host is not a cluster IP as a headless service's, so the SRV record of a cluster-IP
  service without endpoints makes the query local;
* `getClusterZoneAndRegion_caches_unlabelled_node`: the node selection tests only that the
  two label keys are present, so a node with an empty zone is picked over a later good one,
  cached, and fails every later call.
-/
import KubeDns.Query
import KubeDns.Writes

namespace KubeDns

namespace KubeDNS

/-! ## 1. The label tests -/

/-- `domainPath` is the dot-trimmed domain's labels, reversed. -/
theorem domainPath_reverse (kd : KubeDNS) :
    kd.domainPath.reverse = Strings.split (Strings.trimRight kd.domain '.') '.' := by
  simp [domainPath, reverseArray_eq_reverse]

theorem index_reverse {path : List String} {i : Nat} (hi : i < path.reverse.length) :
    index path ((path.length : Int) - i - 1) = pure path.reverse[i] := by
  have hl : i < path.length := by simpa using hi
  have h : ((path.length : Int) - i - 1) = ((path.length - 1 - i : Nat) : Int) := by omega
  rw [h, index_of_lt (by omega)]
  simp [List.getElem_reverse]

/-- The loop of `isFederationQuery` compares the labels of `path` from the `i`-th last one
backwards with `ds`. -/
theorem domainLabelsMatch_eq (path : List String) :
    ∀ (i : Nat) (ds : List String), i + ds.length ≤ path.length →
      domainLabelsMatch path i ds = pure (decide ((path.reverse.drop i).take ds.length = ds))
  | _, [], _ => by simp [domainLabelsMatch]
  | i, d :: rest, h => by
    have hi : i < path.reverse.length := by simp at h ⊢; omega
    rw [domainLabelsMatch, index_reverse hi, pure_bind, List.drop_eq_getElem_cons hi,
      List.length_cons, List.take_succ_cons, domainLabelsMatch_eq path (i + 1) rest
      (by simp at h; omega)]
    by_cases hd : d = path.reverse[i]
    · simp [hd]
    · simp only [List.getElem_reverse] at hd
      simp [hd, Ne.symm hd]

/-- A label list as long as a federation query has its four leading labels. -/
theorem exists_cons4 {path : List String} {n : Nat} (h : path.length = 4 + n) :
    ∃ s ns f sv rest, path = s :: ns :: f :: sv :: rest ∧ rest.length = n := by
  match path, h with
  | s :: ns :: f :: sv :: rest, h => exact ⟨s, ns, f, sv, rest, rfl, by simp at h; omega⟩
  | [], h | [_], h | [_, _], h | [_, _, _], h =>
    simp only [List.length_cons, List.length_nil] at h; omega

/-- A guard that answers `false` when it holds. -/
theorem if_then_false_eq_ok_true {c : Prop} [Decidable c] {x : Go Bool} :
    (if c then pure false else x) = .ok true ↔ ¬c ∧ x = .ok true := by
  split_ifs <;> simp [*, pure, Except.pure]

/-- A guard that answers `false` when it fails. -/
theorem if_else_false_eq_ok_true {c : Prop} [Decidable c] {x : Go Bool} :
    (if c then x else pure false) = .ok true ↔ c ∧ x = .ok true := by
  split_ifs <;> simp [*, pure, Except.pure]

/-- **What `isFederationQuery` accepts**: `[s, ns, f, "svc"]` followed by the domain's labels,
with `s` an RFC 1035 label, `ns` and `f` RFC 1123 labels, and `f` a federation of the
configuration. -/
theorem isFederationQuery_eq_ok_true (kd : KubeDNS) (path : List String) :
    kd.isFederationQuery path = .ok true ↔
      ∃ s ns f, path = [s, ns, f, serviceSubdomain] ++ kd.domainPath.reverse ∧
        isDNS1035Label s = true ∧ isDNS1123Label ns = true ∧ isDNS1123Label f = true ∧
        ∃ cfg, kd.config = some cfg ∧ (cfg.federations.lookup f).isSome = true := by
  unfold isFederationQuery
  by_cases hlen : path.length = 4 + kd.domainPath.length
  · obtain ⟨s, ns, f, sv, rest, rfl, hrest⟩ := exists_cons4 hlen
    rw [if_neg (not_not.mpr hlen)]
    have hdom := domainLabelsMatch_eq (s :: ns :: f :: sv :: rest) 0 kd.domainPath
      (by simp; omega)
    have htake : (rest.reverse ++ [sv, f, ns, s]).take kd.domainPath.length = rest.reverse :=
      List.take_left' (by simp [hrest])
    have hfed : (fun feds => (feds.lookup f).isSome) <$> kd.federations = .ok true ↔
        ∃ cfg, kd.config = some cfg ∧ (cfg.federations.lookup f).isSome = true := by
      unfold federations
      cases kd.config <;> simp [Functor.map, Except.map, pure, Except.pure]
    simp [index, hdom, htake, List.reverse_eq_iff, if_then_false_eq_ok_true,
      if_else_false_eq_ok_true, hfed, and_assoc]
    -- the code's checks, in its order, against the path's shape first
    exact ⟨fun ⟨h1, h2, h3, h4, h5, h6⟩ => ⟨h4, h5, h1, h2, h3, h6⟩,
      fun ⟨h4, h5, h1, h2, h3, h6⟩ => ⟨h1, h2, h3, h4, h5, h6⟩⟩
  · rw [if_pos hlen]
    refine ⟨fun h => absurd h (by decide), ?_⟩
    rintro ⟨s, ns, f, rfl, -⟩
    simp at hlen; omega

/-- `isPodRecord` never panics: its index is behind its length test. -/
theorem isPodRecord_eq (kd : KubeDNS) (path : List String) :
    kd.isPodRecord path = pure (decide (path.length = kd.domainPath.length + 3) &&
      decide (path[kd.domainPath.length]? = some podSubdomain) && path.all (· != "*")) := by
  unfold isPodRecord
  split_ifs with h
  · simp [h]
  · have hlen : path.length = kd.domainPath.length + 3 := not_not.mp h
    have hget : path[kd.domainPath.length]? = some path[kd.domainPath.length] :=
      List.getElem?_eq_getElem _
    rw [index_of_lt (by omega)]
    by_cases hp : path[kd.domainPath.length] = podSubdomain <;> simp [hlen, hget, hp]

/-! ## 2. The local lookup of a federation query -/

/-- A path whose label after the domain is not `"pod"` is no pod record. -/
theorem isPodRecord_of_ne {kd : KubeDNS} {sub : String} (rest : List String)
    (h : sub ≠ podSubdomain) : kd.isPodRecord (kd.domainPath ++ sub :: rest) = pure false := by
  have hsub : (kd.domainPath ++ sub :: rest)[kd.domainPath.length]? = some sub := by
    simp [List.getElem_append_right]
  rw [isPodRecord_eq, hsub]
  simp [h]

/-- A federation query is looked up, label `f` removed, at `domainPath ++ ["svc", ns, s]`. -/
theorem localLookup_federation {kd : KubeDNS} {segments : List String} {s ns f : String}
    (hseg : segments = [s, ns, f, serviceSubdomain] ++ kd.domainPath.reverse)
    (hfed : kd.isFederationQuery segments = .ok true) :
    kd.localLookup segments false =
      .ok (some segments, kd.domainPath ++ [serviceSubdomain, ns, s],
        kd.cache.getValuesForPathWithWildcards (kd.domainPath ++ [serviceSubdomain, ns, s])) := by
  have hsvc : serviceSubdomain ≠ podSubdomain := by decide
  subst hseg
  simp only [List.cons_append, List.nil_append] at hfed ⊢
  have hto : sliceTo (s :: ns :: f :: serviceSubdomain :: kd.domainPath.reverse) 2 =
      pure [s, ns] := by
    rw [sliceTo, if_pos (by simp; omega)]; rfl
  have hfrom : sliceFrom (s :: ns :: f :: serviceSubdomain :: kd.domainPath.reverse) 3 =
      pure (serviceSubdomain :: kd.domainPath.reverse) := by
    rw [sliceFrom, if_pos (by simp; omega)]; rfl
  simp [localLookup, hfed, hto, hfrom, reverseArray_eq_reverse, getRecordsForPath,
    isPodRecord_of_ne _ hsvc]
  rfl

/-- Only a non-exact federation query takes the federation branch of `Records`. -/
theorem localLookup_some_iff (kd : KubeDNS) (segments : List String) (exact : Bool) :
    (∃ fs path rs, kd.localLookup segments exact = .ok (some fs, path, rs)) ↔
      exact = false ∧ kd.isFederationQuery segments = .ok true := by
  constructor
  · rintro ⟨fs, path, rs, h⟩
    cases exact
    · refine ⟨rfl, ?_⟩
      cases hf : kd.isFederationQuery segments with
      | error e => simp [localLookup, hf, bind, Except.bind] at h
      | ok b =>
        cases b
        · cases hr : kd.getRecordsForPath (reverseArray segments) false <;>
            simp [localLookup, hf, hr] at h
        · rfl
    · cases hr : kd.getRecordsForPath (reverseArray segments) true <;>
        simp [localLookup, hr] at h
  · rintro ⟨rfl, hfed⟩
    obtain ⟨s, ns, f, hseg, -⟩ := (isFederationQuery_eq_ok_true kd segments).1 hfed
    exact ⟨_, _, _, localLookup_federation hseg hfed⟩

theorem records_of_localLookup {kd : KubeDNS} {nodeList : NodeList} {name : String}
    {exact : Bool} {fs path : List String} {rs : List SkyService}
    (h : kd.localLookup (Strings.split (Strings.trimRight name '.') '.') exact =
      .ok (some fs, path, rs)) :
    kd.records nodeList name exact = kd.recordsForFederation nodeList rs path exact fs := by
  simp only [records, h]

/-! ## 3. The two CNAMEs -/

/-- The local CNAME's name: `s.ns.svc.<dot-trimmed domain>`. -/
theorem join_localPath (kd : KubeDNS) (ns s : String) :
    Strings.join (reverseArray (kd.domainPath ++ [serviceSubdomain, ns, s])) '.' =
      s ++ "." ++ ns ++ ".svc." ++ Strings.trimRight kd.domain '.' := by
  rw [reverseArray_eq_reverse, List.reverse_append, domainPath_reverse]
  simp only [List.reverse_cons, List.reverse_nil, List.nil_append, List.cons_append,
    List.singleton_append]
  rw [Strings.join_cons (by simp), Strings.join_cons (by simp),
    Strings.join_cons (Strings.split_ne_nil _ _), Strings.join_split]
  simp [String.ext_iff, serviceSubdomain]

/-- In a federation query the dot-trimmed domain is not empty: otherwise the query's last
label would be empty and the trimmed query would end in a dot. -/
theorem trimRight_domain_ne_nil {kd : KubeDNS} {name s ns f : String}
    (hseg : Strings.split (Strings.trimRight name '.') '.' =
      [s, ns, f, serviceSubdomain] ++ Strings.split (Strings.trimRight kd.domain '.') '.') :
    (Strings.trimRight kd.domain '.').data ≠ [] := by
  intro h0
  have hempty : Strings.trimRight kd.domain '.' = "" := String.ext h0
  apply Strings.trimRight_getLast name '.'
  rw [← Strings.join_split (Strings.trimRight name '.') '.', hseg, hempty]
  show (Strings.join ([s, ns, f, serviceSubdomain] ++ [""]) '.').data.getLast? = some '.'
  rw [Strings.join_append_singleton (by simp)]
  simp

/-- The redirect of `federationRecords` on a federation query, by the zone lookup's answer. -/
theorem federationRecords_eq {kd : KubeDNS} {nodeList : NodeList} {segments : List String}
    {s ns f : String} {cfg : Config}
    (hseg : segments = [s, ns, f, serviceSubdomain] ++ kd.domainPath.reverse)
    (hfed : kd.isFederationQuery segments = .ok true) (hcfg : kd.config = some cfg) :
    kd.federationRecords nodeList (reverseArray segments) =
      match getClusterZoneAndRegion kd.nodesStore nodeList with
      | (.error err, nodes) =>
        (.error (.error (.message ("failed to obtain the cluster zone and region: " ++ err))),
          nodes)
      | (.ok (z, r), nodes) =>
        (let d := (cfg.federations.lookup f).getD ""
         if isDNS1123Subdomain d then
           .ok [hostRecord (Strings.join [s, ns, f, serviceSubdomain, z, r, d] '.' ++ ".")]
         else .error (.error (.message (d ++ " is not a valid domain name for federation " ++ f))),
          nodes) := by
  have hslice : sliceTo segments ((segments.length : Int) - kd.domainPath.length) =
      pure [s, ns, f, serviceSubdomain] := by
    have h4 : (segments.length : Int) - kd.domainPath.length = 4 := by subst hseg; simp; omega
    rw [h4, sliceTo, if_pos (by subst hseg; simp; omega), hseg]
    rfl
  simp only [federationRecords, reverseArray_reverseArray, hfed, hslice, pure, Except.pure]
  generalize getClusterZoneAndRegion kd.nodesStore nodeList = res
  rcases res with ⟨_ | ⟨z, r⟩, nodes⟩
  · rfl
  simp only [federations, hcfg]
  split_ifs with hd
  · obtain ⟨b, hb, hab⟩ := isDNS1123Subdomain_getLast hd
    have hdot : b ≠ '.' := by rintro rfl; exact absurd hab (by decide)
    have hlast : (Strings.join [s, ns, f, serviceSubdomain, z, r, (cfg.federations.lookup f).getD ""]
        '.').data.getLast? ≠ some '.' := by
      rw [show [s, ns, f, serviceSubdomain, z, r, (cfg.federations.lookup f).getD ""] =
        [s, ns, f, serviceSubdomain, z, r] ++ [(cfg.federations.lookup f).getD ""] from rfl,
        Strings.join_append_singleton (by simp)]
      simp [List.getLast?_append, List.getLast?_cons, hb, hdot]
    simp [index, hd, Strings.hasSuffix_dot_of_getLast hlast]
  · simp [index, hd]

/-- **The federation rewrite.**  `Records(n, exact)` takes the federation branch exactly
when `exact` is false and `isFederationQuery` holds for the labels of `n`.  Then `n` is
`[s, ns, f, "svc"]` followed by the domain's labels with `f` a federation of the
configuration (of domain `d`), the local lookup path is `domainPath ++ ["svc", ns, s]`, a
valid local record gives the CNAME `s.ns.svc.<dot-trimmed domain>.`, and otherwise, once
`getClusterZoneAndRegion` yields `(z, r)`, the answer is `s.ns.f.svc.z.r.d.` if `d` passes
`IsDNS1123Subdomain` and an error if it does not. -/
theorem records_federation_rewrite (kd : KubeDNS) (nodeList : NodeList) (name : String)
    (exact : Bool) :
    let segments := Strings.split (Strings.trimRight name '.') '.'
    ((∃ fs path rs, kd.localLookup segments exact = .ok (some fs, path, rs)) ↔
      exact = false ∧ kd.isFederationQuery segments = .ok true) ∧
    (kd.isFederationQuery segments = .ok true →
      ∃ cfg s ns f d, kd.config = some cfg ∧ cfg.federations.lookup f = some d ∧
        segments = [s, ns, f, serviceSubdomain] ++
          Strings.split (Strings.trimRight kd.domain '.') '.' ∧
        let path := kd.domainPath ++ [serviceSubdomain, ns, s]
        let rs := kd.cache.getValuesForPathWithWildcards path
        kd.localLookup segments false = .ok (some segments, path, rs) ∧
        (rs.any kd.isValidLocalRecord = true →
          kd.records nodeList name false =
            (.ok [hostRecord (s ++ "." ++ ns ++ ".svc." ++ Strings.trimRight kd.domain '.' ++ ".")],
              kd.nodesStore)) ∧
        (rs.any kd.isValidLocalRecord = false → ∀ z r nodes,
          getClusterZoneAndRegion kd.nodesStore nodeList = (.ok (z, r), nodes) →
          kd.records nodeList name false =
            (if isDNS1123Subdomain d then
              .ok [hostRecord (Strings.join [s, ns, f, serviceSubdomain, z, r, d] '.' ++ ".")]
            else .error (.error (.message
              (d ++ " is not a valid domain name for federation " ++ f))), nodes))) := by
  intro segments
  refine ⟨localLookup_some_iff kd segments exact, fun hfed => ?_⟩
  obtain ⟨s, ns, f, hseg, -, -, -, cfg, hcfg, hf⟩ := (isFederationQuery_eq_ok_true kd _).1 hfed
  obtain ⟨d, hd⟩ := Option.isSome_iff_exists.1 hf
  have hseg' := hseg.trans (by rw [domainPath_reverse])
  have hlook := localLookup_federation hseg hfed
  refine ⟨cfg, s, ns, f, d, hcfg, hd, hseg', hlook, fun hany => ?_, fun hany z r nodes hzr => ?_⟩
  · have hne := trimRight_domain_ne_nil hseg'
    have hlast : (s ++ "." ++ ns ++ ".svc." ++ Strings.trimRight kd.domain '.').data.getLast? ≠
        some '.' := by
      rw [String.data_append, List.getLast?_append_of_ne_nil _ hne]
      exact Strings.trimRight_getLast kd.domain '.'
    rw [records_of_localLookup hlook, recordsForFederation, if_pos hany, join_localPath]
    simp only [Strings.hasSuffix_dot_of_getLast hlast, Bool.false_eq_true, if_false]
  · rw [records_of_localLookup hlook, recordsForFederation, if_neg (by simp [hany]),
      federationRecords_eq hseg hfed hcfg, hzr]
    simp [hd]

end KubeDNS

/-! ## 4. Which local records count

`recordsForFederation` accepts the query locally as soon as one record passes
`isValidLocalRecord`; every record whose Host is not a key of `clusterIPServiceMap` passes
it as a "headless" record.  A cluster-IP service with a named port has an SRV record whose
Host is the service FQDN, so its federation query is answered locally whether or not its
Endpoints exist. -/

/-- **A cluster-IP service without endpoints counts as local.**  Service `ns/mysvc` with
cluster IP `10.0.0.1` and the port `http/TCP`, no Endpoints object, federation `myfed`: the
query `mysvc.ns.myfed.svc.cluster.local.` gets the local CNAME. -/
theorem records_federation_local_without_endpoints :
    let s : Service := ⟨"mysvc", "ns", .clusterIP, "10.0.0.1", [], [⟨"http", "TCP", 80⟩], ""⟩
    let kd : KubeDNS := { (KubeDNS.newKubeDNS "cluster.local").step (.serviceAdd s) with
      config := some ⟨[("myfed", "example.com")], []⟩, nodesStore := [] }
    Reachable kd ∧ kd.endpointsStore s.key = none ∧
      (kd.records (.ok []) "mysvc.ns.myfed.svc.cluster.local." false).1 =
        .ok [hostRecord "mysvc.ns.svc.cluster.local."] := by
  intro s kd
  refine ⟨.offInformer _ _ (.step (.init _) rfl (disjointIPs_of_servicesStore
    (@servicesStore_step_of_ne _ (.serviceAdd s) _ rfl fun _ _ => rfl))), rfl, by decide⟩

/-! ## 5. The zone and region of the cluster

The federation redirect needs the cluster's zone and region.  `getClusterZoneAndRegion`
answers from the cached node when there is one; on a cold store it caches the first listed
node that has both label KEYS, and only then requires both VALUES to be non-empty. -/

/-- A warm node store answers from its first node alone and stays as it is. -/
theorem getClusterZoneAndRegion_cons (node : Node) (rest : List Node) (nodeList : NodeList) :
    getClusterZoneAndRegion (node :: rest) nodeList =
      ((getClusterZoneAndRegion [node] (.ok [])).1, node :: rest) := by
  unfold getClusterZoneAndRegion
  dsimp only
  split <;> (try split) <;> rfl

/-- A cold call caches the first listed node with both label keys, whatever its values. -/
theorem getClusterZoneAndRegion_nil_store (items : List Node) :
    (getClusterZoneAndRegion [] (.ok items)).2 = (items.find? hasZoneAndRegionLabels).toList := by
  cases items with
  | nil => rfl
  | cons node rest =>
    unfold getClusterZoneAndRegion
    cases h : (node :: rest).find? hasZoneAndRegionLabels with
    | none => simp only [h]; rfl
    | some n => simp only [h]; split <;> (try split) <;> rfl

/-- **A node with an empty zone is cached and fails every later call.**  The API lists `n1`,
whose zone label is empty, before `n2`, whose labels are both set: the call picks `n1`,
caches it and fails, and every later call fails too, whatever the API would list. -/
theorem getClusterZoneAndRegion_caches_unlabelled_node :
    let n₁ : Node := ⟨"n1", [(labelZoneFailureDomain, ""), (labelZoneRegion, "r1")]⟩
    let n₂ : Node := ⟨"n2", [(labelZoneFailureDomain, "z1"), (labelZoneRegion, "r1")]⟩
    getClusterZoneAndRegion [] (.ok [n₁, n₂]) = (.error "unknown cluster zone", [n₁]) ∧
      ∀ nodeList, getClusterZoneAndRegion [n₁] nodeList = (.error "unknown cluster zone", [n₁]) := by
  intro n₁ n₂
  exact ⟨by decide, fun _ => rfl⟩

end KubeDns
