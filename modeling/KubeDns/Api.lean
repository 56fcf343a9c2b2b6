/-
# The objects the engine reads and writes

The record payload (`skymsg.Service`), the parts of `v1.Service`, `v1.Endpoints` and
`v1.Node` that `dns.go` reads, the dynamic configuration (`config.Config`), the SkyDNS
server configuration and the `resolv.conf` client configuration that `updateConfig`
reads and writes (`ServerConfig`, `ClientConfig`), and the three
name checks of `k8s.io/apimachinery/pkg/util/validation` that `isFederationQuery` and
`federationRecords` call.

Object metadata and spec are flattened into one record per kind.  The informer stores key
an object by `kcache.MetaNamespaceKeyFunc`, the string `namespace/name`; the model keys it
by the pair, which is the same map because an object name never holds a `/`.
-/
import KubeDns.Go

namespace KubeDns

/-! ## 1. Records -/

/-- `skymsg.Service`, the payload of every record.  `Text`, `Mail`, `TargetStrip`, `Group`
and `Key` are never set by the engine and stay at their zero values. -/
structure SkyService where
  host : String
  port : Int
  priority : Int
  weight : Int
  ttl : Nat
  deriving DecidableEq, Repr

/-! ## 2. Services, endpoints, nodes -/

/-- `v1.ServiceType`. -/
inductive ServiceType where
  | clusterIP
  | nodePort
  | loadBalancer
  | externalName
  deriving DecidableEq, Repr

/-- `v1.ServicePort`. -/
structure ServicePort where
  name : String
  protocol : String
  port : Int
  deriving DecidableEq, Repr

/-- `v1.Service`: its name and namespace, and the `Spec` fields the engine reads. -/
structure Service where
  name : String
  «namespace» : String
  type : ServiceType
  clusterIP : String
  clusterIPs : List String
  ports : List ServicePort
  externalName : String
  deriving DecidableEq, Repr

/-- `v1.EndpointAddress`. -/
structure EndpointAddress where
  ip : String
  hostname : String
  deriving DecidableEq, Repr

/-- `v1.EndpointPort`. -/
structure EndpointPort where
  name : String
  protocol : String
  port : Int
  deriving DecidableEq, Repr

/-- `v1.EndpointSubset`. -/
structure EndpointSubset where
  addresses : List EndpointAddress
  ports : List EndpointPort
  deriving DecidableEq, Repr

/-- `v1.Endpoints`. -/
structure Endpoints where
  name : String
  «namespace» : String
  subsets : List EndpointSubset
  deriving DecidableEq, Repr

/-- `v1.Node`: its name and its labels. -/
structure Node where
  name : String
  labels : List (String × String)
  deriving DecidableEq, Repr

/-- `v1.LabelZoneFailureDomain`. -/
def labelZoneFailureDomain : String := "failure-domain.beta.kubernetes.io/zone"

/-- `v1.LabelZoneRegion`. -/
def labelZoneRegion : String := "failure-domain.beta.kubernetes.io/region"

/-- The informer store key, `MetaNamespaceKeyFunc`: namespace and name. -/
abbrev ObjectKey := String × String

/-- The store key of a service. -/
def Service.key (s : Service) : ObjectKey := (s.namespace, s.name)

/-- The store key of an endpoints object: the key of the service it belongs to. -/
def Endpoints.key (e : Endpoints) : ObjectKey := (e.namespace, e.name)

/-- `config.Config`: the federation map and the upstream nameservers. -/
structure Config where
  federations : List (String × String)
  upstreamNameservers : List String
  deriving DecidableEq, Repr

/-- `server.Config` of SkyDNS, which `kd.SkyDNSConfig` points to: the one field the engine
writes, the upstream nameservers the server forwards to. -/
structure ServerConfig where
  nameservers : List String
  deriving DecidableEq, Repr

/-- `dns.ClientConfig` (miekg/dns), as `ClientConfigFromFile` reads it from `resolv.conf`:
the fields `loadDefaultNameserver` reads. -/
structure ClientConfig where
  servers : List String
  port : String
  deriving DecidableEq, Repr

/-! ## 3. Name checks of `validation` (each returns "no errors") -/

/-- A character of `[a-z0-9]`. -/
def isAlnumLower (c : Char) : Bool :=
  ('a' ≤ c && c ≤ 'z') || ('0' ≤ c && c ≤ '9')

/-- The regular expression `[a-z0-9]([-a-z0-9]*[a-z0-9])?`. -/
def dns1123LabelFmt (s : List Char) : Bool :=
  match s.head?, s.getLast? with
  | some a, some b => isAlnumLower a && isAlnumLower b && s.all fun c => isAlnumLower c || c == '-'
  | _, _ => false

/-- `validation.IsDNS1123Label`: at most 63 characters of `dns1123LabelFmt`. -/
def isDNS1123Label (s : String) : Bool :=
  s.length ≤ 63 && dns1123LabelFmt s.data

/-- `validation.IsDNS1035Label`: as an RFC 1123 label, starting with a letter. -/
def isDNS1035Label (s : String) : Bool :=
  s.length ≤ 63 && dns1123LabelFmt s.data &&
    match s.data.head? with
    | some a => 'a' ≤ a && a ≤ 'z'
    | none => false

/-- `validation.IsDNS1123Subdomain`: at most 253 characters, dot-separated RFC 1123
labels. -/
def isDNS1123Subdomain (s : String) : Bool :=
  s.length ≤ 253 && (Strings.split s '.').all fun l => dns1123LabelFmt l.data

theorem dns1123LabelFmt_getLast {s : List Char} (h : dns1123LabelFmt s = true) :
    ∃ b, s.getLast? = some b ∧ isAlnumLower b = true := by
  unfold dns1123LabelFmt at h
  split at h
  · next b _ hb => simp only [Bool.and_eq_true] at h; exact ⟨b, hb, h.1.2⟩
  · contradiction

/-- A name `IsDNS1123Subdomain` accepts ends in a letter or a digit. -/
theorem isDNS1123Subdomain_getLast {d : String} (h : isDNS1123Subdomain d = true) :
    ∃ b, d.data.getLast? = some b ∧ isAlnumLower b = true := by
  have hne := Strings.split_ne_nil d '.'
  have hsplit := List.dropLast_append_getLast hne
  set L := (Strings.split d '.').getLast hne
  simp only [isDNS1123Subdomain, Bool.and_eq_true, List.all_eq_true] at h
  obtain ⟨b, hb, hab⟩ := dns1123LabelFmt_getLast (h.2 L (List.getLast_mem hne))
  refine ⟨b, ?_, hab⟩
  have hd := Strings.join_split d '.'
  rw [← hsplit] at hd
  rcases eq_or_ne (Strings.split d '.').dropLast [] with h0 | h0
  · rw [h0, List.nil_append, Strings.join_singleton] at hd
    rw [← hd, hb]
  · rw [← hd, Strings.join_append_singleton h0]
    simp [List.getLast?_append, List.getLast?_cons, hb]

end KubeDns
