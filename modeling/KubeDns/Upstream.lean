/-
# The configuration push: upstream nameservers

`kd.updateConfig(nextConfig)` (`dns.go`) validates each upstream nameserver of the pushed
configuration with `ValidateNameserverIpAndPort` and joins it back with `JoinHostPort`; the
first invalid entry ends the push.  This module models the push and proves what it installs.

* **Validation accepts what it installs.**  If `ValidateNameserverIpAndPort(s)` returns
  `(h, p)`, then `h` is an address, `p` a port in `[1, 65535]`, and the joined
  `JoinHostPort(h, p)` validates back to `(h, p)` (`validate_joinHostPort_round_trip`):
  a bare address comes back as `ip.String()`, which reads back (`NetText`), and a split
  `host:port` comes back as its own parts, which `SplitHostPort` finds again (`HostPort`).
* **The push is all or nothing.**  The loop only accumulates (`updateConfig.loop_eq`), so
  either every entry validates and the joined list (or, for an empty list, the
  `resolv.conf` servers) is installed together with the configuration, or some entry is
  rejected and neither the configuration nor the nameservers move, except that an empty
  nameserver list falls back to `resolv.conf` (`updateConfig_accepts`,
  `updateConfig_rejects`).  Over any sequence of pushes the configuration is the last one
  all of whose nameservers validate (`updateConfig_all_or_nothing`).
-/
import KubeDns.HostPort
import KubeDns.State

namespace KubeDns

/-! ## 1. The model -/

/-- `kd.loadDefaultNameserver()`, given what `dns.ClientConfigFromFile(defaultResolvFile)`
returned: each server joined with the file's port, or none when the file could not be
read. -/
def loadDefaultNameserver (resolvConf : Except String ClientConfig) : List String :=
  match resolvConf with
  | .error _ => []
  | .ok c => c.servers.map fun s => Net.joinHostPort s c.port

namespace KubeDNS

/-- The loop of `updateConfig` over `nextConfig.UpstreamNameservers`: each entry validated
and appended, joined, to `nameServers`; the first invalid entry ends it with its error. -/
def updateConfig.loop : List String → List String → Except NameserverError (List String)
  | nameServers, [] => .ok nameServers
  | nameServers, nameServer :: rest =>
    match validateNameserverIpAndPort nameServer with
    | .error err => .error err
    | .ok (ip, port) => updateConfig.loop (nameServers ++ [Net.joinHostPort ip port]) rest

/-- `kd.updateConfig(nextConfig)`, with the `resolv.conf` read that `loadDefaultNameserver`
makes.  Without a SkyDNS configuration the push is taken as it is. -/
def updateConfig (resolvConf : Except String ClientConfig) (nextConfig : Config)
    (kd : KubeDNS) : KubeDNS :=
  match kd.skyDNSConfig with
  | none => { kd with config := some nextConfig }
  | some sky =>
    match updateConfig.loop [] nextConfig.upstreamNameservers with
    | .error _ =>
      if sky.nameservers = [] then
        { kd with skyDNSConfig := some { sky with nameservers := loadDefaultNameserver resolvConf } }
      else kd
    | .ok nameServers =>
      { kd with
        skyDNSConfig := some { sky with
          nameservers := if nameServers = [] then loadDefaultNameserver resolvConf else nameServers }
        config := some nextConfig }

end KubeDNS

/-! ## 2. Validation accepts what it installs -/

/-- What an accepted nameserver is: a bare address, printed, with port 53; or a split
`host:port` with an address for host and a port in range. -/
theorem validateNameserverIpAndPort_ok {s h p : String}
    (hv : validateNameserverIpAndPort s = .ok (h, p)) :
    (∃ ip, Net.parseIP s = some ip ∧ h = Net.ipString ip ∧ p = "53") ∨
      (Net.splitHostPort s = .ok (h, p) ∧ (Net.parseIP h).isSome ∧
        ∃ n, Strconv.atoi p = some n ∧ 1 ≤ n ∧ n ≤ 65535) := by
  unfold validateNameserverIpAndPort at hv
  split at hv
  · next ip hip =>
    cases hv
    exact .inl ⟨ip, hip, rfl, rfl⟩
  split at hv
  · cases hv
  next host port hsplit =>
  split_ifs at hv with hip
  split at hv
  · next n hn =>
    split_ifs at hv with hr
    cases hv
    exact .inr ⟨hsplit, Option.ne_none_iff_isSome.1 (by simpa using hip), n, hn, by omega, by omega⟩
  · cases hv

/-- An address with a port in range, joined, validates back to its parts. -/
theorem validateNameserverIpAndPort_joinHostPort {h p : String} (hh : (Net.parseIP h).isSome)
    (hb : '[' ∉ h.data ∧ ']' ∉ h.data) (hp : ':' ∉ p.data ∧ '[' ∉ p.data ∧ ']' ∉ p.data)
    (hn : ∃ n, Strconv.atoi p = some n ∧ 1 ≤ n ∧ n ≤ 65535) :
    validateNameserverIpAndPort (Net.joinHostPort h p) = .ok (h, p) := by
  obtain ⟨n, hn, h1, h2⟩ := hn
  have hnot : ¬(n < 1 ∨ n > 65535) := by omega
  simp [validateNameserverIpAndPort, Net.parseIP_joinHostPort hh,
    Net.splitHostPort_joinHostPort hb.1 hb.2 hp.1 hp.2.1 hp.2.2, Option.ne_none_iff_isSome.2 hh,
    hn, hnot]

/-- **Every accepted nameserver joins into a nameserver that validates back to the same
host and port**: the host is an address and the port a number in `[1, 65535]`, whichever
branch accepted it. -/
theorem validate_joinHostPort_round_trip (s h p : String)
    (hv : validateNameserverIpAndPort s = .ok (h, p)) :
    (Net.parseIP h).isSome ∧ (∃ n, Strconv.atoi p = some n ∧ 1 ≤ n ∧ n ≤ 65535) ∧
      validateNameserverIpAndPort (Net.joinHostPort h p) = .ok (h, p) := by
  rcases validateNameserverIpAndPort_ok hv with ⟨ip, hip, rfl, rfl⟩ | ⟨hsplit, hh, hn⟩
  · have h16 := Net.parseIP_length hip
    have hh : (Net.parseIP (Net.ipString ip)).isSome := by
      rw [Net.parseIP_ipString h16]
      rfl
    have hn : ∃ n, Strconv.atoi "53" = some n ∧ 1 ≤ n ∧ n ≤ 65535 := ⟨53, by decide, by decide⟩
    exact ⟨hh, hn, validateNameserverIpAndPort_joinHostPort hh (Net.bracket_not_mem_ipString h16)
      (by decide) hn⟩
  · obtain ⟨hb1, hb2, hp⟩ := Net.splitHostPort_ok hsplit
    exact ⟨hh, hn, validateNameserverIpAndPort_joinHostPort hh ⟨hb1, hb2⟩ hp hn⟩

theorem validate_joinHostPort_round_trip_ipv6 :
    validateNameserverIpAndPort "::1" = .ok ("::1", "53") ∧
      ((Net.parseIP "::1").isSome ∧ (∃ n, Strconv.atoi "53" = some n ∧ 1 ≤ n ∧ n ≤ 65535) ∧
        validateNameserverIpAndPort (Net.joinHostPort "::1" "53") = .ok ("::1", "53")) :=
  ⟨by decide, validate_joinHostPort_round_trip "::1" "::1" "53" (by decide)⟩

/-! ## 3. The push is all or nothing -/

section MapM

variable {α β ε : Type} (f : α → Except ε β)

/-- `mapM` in `Except` succeeds exactly when every element does. -/
theorem mapM_toBool : ∀ l : List α, (l.mapM f).toBool = l.all fun a => (f a).toBool
  | [] => rfl
  | a :: l => by
    rw [List.mapM_cons, List.all_cons, ← mapM_toBool l]
    cases f a <;> cases l.mapM f <;> rfl

/-- A rejected element makes `mapM` fail. -/
theorem mapM_eq_error {l : List α} (h : ∃ a ∈ l, ∃ e, f a = .error e) : ∃ e, l.mapM f = .error e := by
  have hb : (l.mapM f).toBool = false := by
    obtain ⟨a, ha, e, he⟩ := h
    rw [mapM_toBool, List.all_eq_false]
    exact ⟨a, ha, by simp [he, Except.toBool]⟩
  cases hm : l.mapM f with
  | error e => exact ⟨e, rfl⟩
  | ok _ =>
    rw [hm] at hb
    cases hb

end MapM

namespace KubeDNS

/-- The loop only accumulates: the joined entries are appended when every entry validates,
and the first error is returned otherwise. -/
theorem updateConfig.loop_eq : ∀ nameServers l : List String,
    updateConfig.loop nameServers l =
      (l.mapM validateNameserverIpAndPort).map fun hps =>
        nameServers ++ hps.map fun hp => Net.joinHostPort hp.1 hp.2
  | nameServers, [] => by
    rw [updateConfig.loop, List.mapM_nil]
    exact congrArg Except.ok (List.append_nil nameServers).symm
  | nameServers, s :: rest => by
    rw [updateConfig.loop, List.mapM_cons]
    cases validateNameserverIpAndPort s with
    | error e => rfl
    | ok hp =>
      obtain ⟨ip, port⟩ := hp
      dsimp only
      rw [updateConfig.loop_eq]
      cases rest.mapM validateNameserverIpAndPort with
      | error e => rfl
      | ok v => exact congrArg Except.ok (by simp)

variable (resolvConf : Except String ClientConfig) (nextConfig : Config) (kd : KubeDNS)
  (sky : ServerConfig)

/-- A push all of whose nameservers validate installs them, joined and in order, and the
configuration. -/
theorem updateConfig_accepts {hps : List (String × String)}
    (h : nextConfig.upstreamNameservers.mapM validateNameserverIpAndPort = .ok hps) :
    { kd with skyDNSConfig := some sky }.updateConfig resolvConf nextConfig =
      { kd with
        skyDNSConfig := some { sky with
          nameservers := if hps = [] then loadDefaultNameserver resolvConf
            else hps.map fun hp => Net.joinHostPort hp.1 hp.2 }
        config := some nextConfig } := by
  simp only [updateConfig, updateConfig.loop_eq, h, Except.map, List.nil_append,
    List.map_eq_nil_iff]

/-- A push with a rejected nameserver changes nothing but an empty nameserver list. -/
theorem updateConfig_rejects
    (h : ∃ s ∈ nextConfig.upstreamNameservers, ∃ e, validateNameserverIpAndPort s = .error e) :
    { kd with skyDNSConfig := some sky }.updateConfig resolvConf nextConfig =
      { kd with skyDNSConfig := some { sky with
        nameservers := if sky.nameservers = [] then loadDefaultNameserver resolvConf
          else sky.nameservers } } := by
  obtain ⟨e, he⟩ := mapM_eq_error validateNameserverIpAndPort h
  simp only [updateConfig, updateConfig.loop_eq, he, Except.map]
  split_ifs <;> rfl

/-- Whether every nameserver of a pushed configuration validates. -/
def nameserversValid (c : Config) : Bool :=
  c.upstreamNameservers.all fun s => (validateNameserverIpAndPort s).toBool

/-- One push: the SkyDNS configuration stays set, and the configuration moves exactly when
the push's nameservers validate. -/
theorem updateConfig_config (hsky : kd.skyDNSConfig = some sky) :
    ((kd.updateConfig resolvConf nextConfig).skyDNSConfig.isSome) ∧
      (kd.updateConfig resolvConf nextConfig).config =
        if nameserversValid nextConfig then some nextConfig else kd.config := by
  have hv := mapM_toBool validateNameserverIpAndPort nextConfig.upstreamNameservers
  simp only [updateConfig, hsky, updateConfig.loop_eq, nameserversValid, ← hv]
  cases nextConfig.upstreamNameservers.mapM validateNameserverIpAndPort with
  | error e =>
    dsimp only [Except.map, Except.toBool]
    split_ifs <;> simp_all
  | ok v => exact ⟨rfl, rfl⟩

/-- The last element a filter keeps, pushed one element further. -/
theorem getLast?_filter_cons_or {p : Config → Bool} (c : Config) (l : List Config) (x : Option Config) :
    ((c :: l).filter p).getLast?.or x = (l.filter p).getLast?.or (if p c then some c else x) := by
  rw [List.filter_cons]
  split_ifs
  · rw [List.getLast?_cons]
    cases (l.filter p).getLast? <;> rfl
  · rfl

/-- **Over any sequence of pushes the configuration is the last one whose nameservers all
validate.** -/
theorem config_foldl_updateConfig : ∀ (pushes : List Config) (kd : KubeDNS),
    kd.skyDNSConfig.isSome →
    (pushes.foldl (fun kd c => updateConfig resolvConf c kd) kd).config =
      (pushes.filter nameserversValid).getLast?.or kd.config
  | [], _, _ => by simp
  | c :: cs, kd, hsky => by
    obtain ⟨sky, hs⟩ := Option.isSome_iff_exists.1 hsky
    obtain ⟨hsky', hc⟩ := updateConfig_config resolvConf c kd sky hs
    rw [List.foldl_cons, config_foldl_updateConfig cs _ hsky', hc, getLast?_filter_cons_or]

/-- **A push is all or nothing.**  In a state whose SkyDNS configuration is set: a push all
of whose nameservers validate installs them, joined and in order (or the `resolv.conf`
servers when there are none), with the configuration; a push with a rejected nameserver,
at any position, leaves the configuration and the nameservers as they were (an empty list
falls back to `resolv.conf`), so no validated prefix is installed; and over any sequence of
pushes the configuration is the last one whose nameservers all validate. -/
theorem updateConfig_all_or_nothing :
    (∀ hps, nextConfig.upstreamNameservers.mapM validateNameserverIpAndPort = .ok hps →
      { kd with skyDNSConfig := some sky }.updateConfig resolvConf nextConfig =
        { kd with
          skyDNSConfig := some { sky with
            nameservers := if hps = [] then loadDefaultNameserver resolvConf
              else hps.map fun hp => Net.joinHostPort hp.1 hp.2 }
          config := some nextConfig }) ∧
    ((∃ s ∈ nextConfig.upstreamNameservers, ∃ e, validateNameserverIpAndPort s = .error e) →
      { kd with skyDNSConfig := some sky }.updateConfig resolvConf nextConfig =
        { kd with skyDNSConfig := some { sky with
          nameservers := if sky.nameservers = [] then loadDefaultNameserver resolvConf
            else sky.nameservers } }) ∧
    ∀ pushes : List Config,
      (pushes.foldl (fun kd c => updateConfig resolvConf c kd)
          { kd with skyDNSConfig := some sky }).config =
        (pushes.filter nameserversValid).getLast?.or kd.config :=
  ⟨fun _ h => updateConfig_accepts resolvConf nextConfig kd sky h,
    updateConfig_rejects resolvConf nextConfig kd sky,
    fun pushes => config_foldl_updateConfig resolvConf pushes { kd with skyDNSConfig := some sky } rfl⟩

/-- The second of two upstream nameservers has port 0: the push is dropped whole. -/
theorem updateConfig_all_or_nothing_bad_port :
    ({ newKubeDNS "cluster.local." with skyDNSConfig := some ⟨["8.8.8.8:53"]⟩ }.updateConfig
        (.error "open /etc/resolv.conf") ⟨[], ["1.1.1.1", "1.1.1.1:0"]⟩).skyDNSConfig =
      some ⟨["8.8.8.8:53"]⟩ := by
  rw [(updateConfig_all_or_nothing (.error "open /etc/resolv.conf") ⟨[], ["1.1.1.1", "1.1.1.1:0"]⟩
    (newKubeDNS "cluster.local.") ⟨["8.8.8.8:53"]⟩).2.1
    ⟨"1.1.1.1:0", by simp, .badPortNumber "0", rfl⟩]
  rfl

end KubeDNS

end KubeDns
