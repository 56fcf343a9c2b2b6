/-
# Starting: the configuration and the informers' first sync

`NewKubeDNS` leaves `kd.config` nil.  `Start` sets it through `startConfigMapSync`: the
default configuration when the one-shot fetch of the ConfigMap fails, the fetched one
through `updateConfig` otherwise; `syncConfigMap` then runs `updateConfig` on every later
push.  `updateConfig` returns before it sets the configuration when SkyDNS is configured
and an upstream nameserver is rejected.

* `syncConfigMap_startConfigMapSync_config`: from `NewKubeDNS`, the configuration stays nil
  through the start and any pushes exactly when SkyDNS is configured, the fetched ConfigMap
  has a rejected nameserver, and so has every later push.
* `isFederationQuery_eq_panic_iff`: with the configuration nil, `isFederationQuery` reads
  `kd.config.Federations` through the nil pointer exactly when the labels have the
  federation shape (`FederationShaped`), `[s, ns, f, "svc"]` and the domain's labels with
  `s` an RFC 1035 label and `ns`, `f` RFC 1123 labels; otherwise it answers `false`.
* `unset_config_panics`: while the configuration is nil, exact and reverse queries answer,
  and a non-exact query panics exactly when its labels have the federation shape.
  `query_never_panics` is the other half: once the configuration is set, nothing panics;
* `waitForResourceSyncedOrDie_eq`: `Start` then waits for the informers; the loop over what
  its `select` receives is a search for the first event that ends it.
-/
import KubeDns.Safety
import KubeDns.Upstream

namespace KubeDns

/-- Modelled from the spec (§5: a failed fetch "leaves defaults installed"), as the
`config` package is not in the sources: `config.NewDefaultConfig()`, no federations and no
upstream nameservers. -/
def newDefaultConfig : Config := ⟨[], []⟩

namespace KubeDNS

/-- `kd.startConfigMapSync()` up to the goroutine it starts; `once` is what
`kd.configSync.Once()` returned. -/
def startConfigMapSync (resolvConf : Except String ClientConfig) (once : Except String Config)
    (kd : KubeDNS) : KubeDNS :=
  match once with
  | .error _ => { kd with config := some newDefaultConfig }
  | .ok initialConfig => kd.updateConfig resolvConf initialConfig

/-- `kd.syncConfigMap(syncChan)`: `updateConfig` on each configuration the channel
delivers, in order. -/
def syncConfigMap (resolvConf : Except String ClientConfig) (pushes : List Config)
    (kd : KubeDNS) : KubeDNS :=
  pushes.foldl (fun kd c => kd.updateConfig resolvConf c) kd

/-! ## 1. The configuration along the start and the pushes -/

/-- Without SkyDNS the push is taken as it is. -/
theorem updateConfig_of_skyDNSConfig_none {kd : KubeDNS} (h : kd.skyDNSConfig = none)
    (resolvConf : Except String ClientConfig) (c : Config) :
    kd.updateConfig resolvConf c = { kd with config := some c } := by
  simp [updateConfig, h]

theorem syncConfigMap_config_ne_none {kd : KubeDNS} (h : kd.skyDNSConfig = none)
    (resolvConf : Except String ClientConfig) :
    ∀ pushes, kd.config ≠ none → (kd.syncConfigMap resolvConf pushes).config ≠ none
  | [], hc => hc
  | c :: cs, _ => by
    rw [syncConfigMap, List.foldl_cons, updateConfig_of_skyDNSConfig_none h]
    exact @syncConfigMap_config_ne_none { kd with config := some c } h resolvConf cs
      (Option.some_ne_none _)

/-- **The configuration stays nil** through the start and the pushes exactly when SkyDNS is
configured, the fetched ConfigMap has a rejected nameserver, and so has every push. -/
theorem syncConfigMap_startConfigMapSync_config {kd : KubeDNS} (hcfg : kd.config = none)
    (resolvConf : Except String ClientConfig) (once : Except String Config)
    (pushes : List Config) :
    ((kd.startConfigMapSync resolvConf once).syncConfigMap resolvConf pushes).config = none ↔
      kd.skyDNSConfig.isSome ∧ (∃ c, once = .ok c ∧ nameserversValid c = false) ∧
        pushes.all (fun c => !nameserversValid c) := by
  cases hsky : kd.skyDNSConfig with
  | none =>
    have hstart : (kd.startConfigMapSync resolvConf once).config ≠ none := by
      cases once <;> simp [startConfigMapSync, updateConfig, hsky]
    have hsky' : (kd.startConfigMapSync resolvConf once).skyDNSConfig = none := by
      cases once <;> simp [startConfigMapSync, updateConfig, hsky]
    simpa using syncConfigMap_config_ne_none hsky' resolvConf pushes hstart
  | some sky =>
    have hstart : (kd.startConfigMapSync resolvConf once).skyDNSConfig.isSome ∧
        ((kd.startConfigMapSync resolvConf once).config = none ↔
          ∃ c, once = .ok c ∧ nameserversValid c = false) := by
      cases once with
      | error => simp [startConfigMapSync, hsky]
      | ok c =>
        obtain ⟨hs, hc⟩ := updateConfig_config resolvConf c kd sky hsky
        refine ⟨hs, ?_⟩
        simp only [startConfigMapSync, hc, hcfg]
        cases hv : nameserversValid c <;> simp [hv]
    rw [syncConfigMap, config_foldl_updateConfig resolvConf pushes _ hstart.1, Option.or_eq_none,
      hstart.2, List.getLast?_eq_none_iff, List.filter_eq_nil_iff]
    simp [and_comm]

/-- A port-0 nameserver in the fetched ConfigMap and in the one push after it: the
configuration is never set. -/
theorem syncConfigMap_startConfigMapSync_config_port_zero :
    let kd := { newKubeDNS "cluster.local" with skyDNSConfig := some ⟨["8.8.8.8:53"]⟩ }
    kd.config = none ∧
      ((kd.startConfigMapSync (.error "open /etc/resolv.conf") (.ok ⟨[], ["1.1.1.1:0"]⟩)).syncConfigMap
        (.error "open /etc/resolv.conf") [⟨[("fed", "example.com")], ["1.1.1.1:0"]⟩]).config = none :=
  ⟨rfl, (syncConfigMap_startConfigMapSync_config rfl _ _ _).2 ⟨rfl, ⟨_, rfl, by decide⟩, by decide⟩⟩

/-! ## 2. The query path with the configuration nil -/

/-- A guard that answers `false` when it holds. -/
theorem if_then_false_eq_error {c : Prop} [Decidable c] {x : Go Bool} {e : GoError} :
    (if c then pure false else x) = .error e ↔ ¬c ∧ x = .error e := by
  split_ifs <;> simp [*, pure, Except.pure]

/-- A guard that answers `false` when it fails. -/
theorem if_else_false_eq_error {c : Prop} [Decidable c] {x : Go Bool} {e : GoError} :
    (if c then x else pure false) = .error e ↔ c ∧ x = .error e := by
  split_ifs <;> simp [*, pure, Except.pure]

variable {kd : KubeDNS}

/-- The labels `isFederationQuery` checks before it reads the configuration:
`[s, ns, f, "svc"]` and the domain's labels, with `s` an RFC 1035 label and `ns`, `f`
RFC 1123 labels. -/
def FederationShaped (kd : KubeDNS) (path : List String) : Prop :=
  ∃ s ns f, path = [s, ns, f, serviceSubdomain] ++ kd.domainPath.reverse ∧
    isDNS1035Label s = true ∧ isDNS1123Label ns = true ∧ isDNS1123Label f = true

/-- The local lookup once the federation test has answered `false`. -/
theorem localLookup_of_not_federation {segments : List String} {exact : Bool}
    (hF : (if exact then pure false else kd.isFederationQuery segments) = .ok false) :
    kd.localLookup segments exact = (do
      let records ← kd.getRecordsForPath (reverseArray segments) exact
      pure (none, reverseArray segments, records)) := by
  cases exact with
  | true => rfl
  | false =>
    have hF' : kd.isFederationQuery segments = .ok false := hF
    unfold localLookup
    rw [hF']
    rfl

/-- `Records` answers once the federation test has answered `false`. -/
theorem records_returns_of_not_federation (nodeList : NodeList) {name : String} {exact : Bool}
    (hF : (if exact then pure false
      else kd.isFederationQuery (Strings.split (Strings.trimRight name '.') '.')) = .ok false) :
    (kd.records nodeList name exact).1.Returns := by
  have hrec : (kd.getRecordsForPath
      (reverseArray (Strings.split (Strings.trimRight name '.') '.')) exact).Returns :=
    getRecordsForPath_returns (by
      simpa [reverseArray_eq_reverse] using Strings.split_ne_nil (Strings.trimRight name '.') '.')
      exact
  unfold records
  rw [localLookup_of_not_federation hF]
  cases hg : kd.getRecordsForPath (reverseArray _) exact with
  | error e =>
    rw [hg] at hrec
    cases e with
    | error _ => trivial
    | panic _ => exact hrec
  | ok rs =>
    show (if rs = [] then _ else _ : Go (List SkyService)).Returns
    split <;> trivial

section Unset

variable (hcfg : kd.config = none)
include hcfg

/-- **With the configuration nil, `isFederationQuery` panics exactly on the federation
shape**, and answers `false` on every other label list. -/
theorem isFederationQuery_eq_panic_iff (path : List String) :
    (kd.isFederationQuery path = .error (.panic .nilPointerDereference) ↔
      kd.FederationShaped path) ∧
      (kd.isFederationQuery path = .error (.panic .nilPointerDereference) ∨
        kd.isFederationQuery path = .ok false) := by
  unfold isFederationQuery FederationShaped
  by_cases hlen : path.length = 4 + kd.domainPath.length
  · obtain ⟨s, ns, f, sv, rest, rfl, hrest⟩ := exists_cons4 hlen
    rw [if_neg (not_not.mpr hlen)]
    have hdom := domainLabelsMatch_eq (s :: ns :: f :: sv :: rest) 0 kd.domainPath
      (by simp; omega)
    have htake : (rest.reverse ++ [sv, f, ns, s]).take kd.domainPath.length = rest.reverse :=
      List.take_left' (by simp [hrest])
    have hfed : (fun feds => (feds.lookup f).isSome) <$> kd.federations =
        .error (.panic .nilPointerDereference) := by
      simp [federations, hcfg, Functor.map, Except.map, throw, throwThe, MonadExceptOf.throw]
    have hpure : (pure false : Go Bool) = .error (.panic .nilPointerDereference) ↔ False := by
      simp [pure, Except.pure]
    constructor
    · simp [index, hdom, htake, List.reverse_eq_iff, if_then_false_eq_error,
        if_else_false_eq_error, hfed, hpure, and_assoc]
      -- the code's checks, in its order, against the path's shape first
      exact ⟨fun ⟨h1, h2, h3, h4, h5⟩ => ⟨h4, h5, h1, h2, h3⟩,
        fun ⟨h4, h5, h1, h2, h3⟩ => ⟨h1, h2, h3, h4, h5⟩⟩
    · simp [index, hdom, htake, hfed]
      split_ifs <;> simp [pure, Except.pure]
  · rw [if_pos hlen]
    refine ⟨⟨fun h => absurd h (by decide), ?_⟩, .inr rfl⟩
    rintro ⟨s, ns, f, rfl, -⟩
    simp at hlen; omega

/-- **While the configuration is nil**, exact and reverse queries answer, and a non-exact
query panics exactly when its labels have the federation shape; on every other name it
answers. -/
theorem unset_config_panics (nodeList : NodeList) (name : String) :
    ((kd.records nodeList name true).1.Returns ∧ (kd.reverseRecord name).Returns) ∧
      ((kd.records nodeList name false).1 = .error (.panic .nilPointerDereference) ↔
        kd.FederationShaped (Strings.split (Strings.trimRight name '.') '.')) ∧
      (¬kd.FederationShaped (Strings.split (Strings.trimRight name '.') '.') →
        (kd.records nodeList name false).1.Returns) := by
  obtain ⟨hiff, hcases⟩ := isFederationQuery_eq_panic_iff hcfg
    (Strings.split (Strings.trimRight name '.') '.')
  refine ⟨⟨records_returns_of_not_federation nodeList rfl, ?_⟩, ?_, fun hs =>
    records_returns_of_not_federation nodeList (hcases.resolve_left (mt hiff.1 hs))⟩
  · unfold reverseRecord
    dsimp only
    split
    · trivial
    · split <;> trivial
  rw [← hiff]
  rcases hcases with hp | hf
  · simp [records, localLookup, hp]
  · have hr := @records_returns_of_not_federation kd nodeList name false hf
    simp only [hf, reduceCtorEq, iff_false]
    intro he
    rw [he] at hr
    exact hr

end Unset

/-- Before `Start`, a federation-shaped name asked non-exactly panics. -/
theorem unset_config_panics_fed :
    (newKubeDNS "cluster.local").config = none ∧
      ((newKubeDNS "cluster.local").records (.ok []) "web.prod.fed.svc.cluster.local." false).1 =
        .error (.panic .nilPointerDereference) :=
  ⟨rfl, (unset_config_panics rfl (.ok []) _).2.1.2
    ⟨"web", "prod", "fed", by decide, by decide, by decide, by decide⟩⟩

/-! ## 3. Waiting for the informers

After `startConfigMapSync`, `Start` blocks in `waitForResourceSyncedOrDie`: a `select` over
the `initialSyncTimeout` timer and a 500 ms ticker.  The model takes what the `select`
receives, in order, each tick with what the two controllers' `HasSynced` answer then. -/

/-- What the `select` of `waitForResourceSyncedOrDie` receives next. -/
inductive SyncEvent where
  | timeout
  | tick (endpointsSynced servicesSynced : Bool)
  deriving DecidableEq, Repr

/-- `kd.HasSynced()`. -/
def hasSynced (endpointsSynced servicesSynced : Bool) : Bool :=
  endpointsSynced && servicesSynced

/-- The resources a tick finds not yet initialized, in the code's order. -/
def unsyncedResources (endpointsSynced servicesSynced : Bool) : List String :=
  (if !endpointsSynced then ["endpoints"] else []) ++ (if !servicesSynced then ["services"] else [])

/-- `kd.waitForResourceSyncedOrDie()` on what its `select` receives: `some (.ok ())` when it
returns, `some (.error msg)` at `klog.Fatalf(msg)`, `none` while it still waits. -/
def waitForResourceSyncedOrDie : List SyncEvent → Option (Except String Unit)
  | [] => none
  | .timeout :: _ => some (.error "Timeout waiting for initialization")
  | .tick endpointsSynced servicesSynced :: events =>
    if unsyncedResources endpointsSynced servicesSynced ≠ [] then waitForResourceSyncedOrDie events
    else some (.ok ())

/-- What ends the wait: the timer, or a tick at which `HasSynced` holds. -/
def SyncEvent.ends : SyncEvent → Bool
  | .timeout => true
  | .tick endpointsSynced servicesSynced => hasSynced endpointsSynced servicesSynced

theorem unsyncedResources_eq_nil (endpointsSynced servicesSynced : Bool) :
    unsyncedResources endpointsSynced servicesSynced = [] ↔
      hasSynced endpointsSynced servicesSynced = true := by
  cases endpointsSynced <;> cases servicesSynced <;> decide

/-- The wait loop as a search: `waitForResourceSyncedOrDie` answers at the first event that
ends it, and waits as long as none came. -/
theorem waitForResourceSyncedOrDie_eq (events : List SyncEvent) :
    waitForResourceSyncedOrDie events = (events.find? SyncEvent.ends).map fun
      | .timeout => .error "Timeout waiting for initialization"
      | .tick _ _ => .ok () := by
  induction events with
  | nil => rfl
  | cons ev events ih =>
    cases ev with
    | timeout => rfl
    | tick endpointsSynced servicesSynced =>
      by_cases hs : hasSynced endpointsSynced servicesSynced = true
      · simp [waitForResourceSyncedOrDie, SyncEvent.ends, hs, unsyncedResources_eq_nil]
      · simp [waitForResourceSyncedOrDie, SyncEvent.ends, hs, unsyncedResources_eq_nil, ih]

end KubeDNS

end KubeDns
