/-
# Informer events and the runs of the engine

An informer event first updates its kind's store, as `kcache.NewInformer` does, and then
runs the handler (`step`).  A valid stream adds only an absent key and updates or deletes
with the stored object (`Event.Valid`).  The theorems about whole runs also assume that no
IP is owned by two current services at once (`DisjointIPs`): an IP is owned by a service
when it is one of its cluster IPs (with a cluster IP set) or a hostnamed address of its
stored Endpoints.

`Reachable` is the set of states such runs produce from `NewKubeDNS`, with the
configuration pushes and the zone lookups of the query path (which touch only `config`
and `nodesStore`) at any point.
-/
import KubeDns.Handlers

namespace KubeDns

/-- An informer callback with its objects. -/
inductive Event where
  | serviceAdd (s : Service)
  | serviceUpdate (old new : Service)
  | serviceDelete (s : Service)
  | endpointsAdd (e : Endpoints)
  | endpointsUpdate (old new : Endpoints)
  | endpointsDelete (e : Endpoints)
  deriving DecidableEq, Repr

/-- The key of the object an event delivers (for an update, of the new object). -/
def Event.key : Event → ObjectKey
  | .serviceAdd s | .serviceDelete s => s.key
  | .serviceUpdate _ new => new.key
  | .endpointsAdd e | .endpointsDelete e => e.key
  | .endpointsUpdate _ new => new.key

/-- Every object an event carries has the key `key`. -/
def Event.Concerns (key : ObjectKey) : Event → Prop
  | .serviceAdd s | .serviceDelete s => s.key = key
  | .serviceUpdate old new => old.key = key ∧ new.key = key
  | .endpointsAdd e | .endpointsDelete e => e.key = key
  | .endpointsUpdate old new => old.key = key ∧ new.key = key

namespace KubeDNS

/-- The informer's write to its store, made before it calls the handler. -/
def storeUpdate (kd : KubeDNS) : Event → KubeDNS
  | .serviceAdd s | .serviceUpdate _ s =>
    { kd with servicesStore := Function.update kd.servicesStore s.key (some s) }
  | .serviceDelete s => { kd with servicesStore := Function.update kd.servicesStore s.key none }
  | .endpointsAdd e | .endpointsUpdate _ e =>
    { kd with endpointsStore := Function.update kd.endpointsStore e.key (some e) }
  | .endpointsDelete e =>
    { kd with endpointsStore := Function.update kd.endpointsStore e.key none }

/-- The handler registered for the event's kind. -/
def handle (kd : KubeDNS) : Event → KubeDNS
  | .serviceAdd s => kd.newService s
  | .serviceUpdate old new => kd.updateService old new
  | .serviceDelete s => kd.removeService s
  | .endpointsAdd e => kd.handleEndpointAdd e
  | .endpointsUpdate old new => kd.handleEndpointUpdate old new
  | .endpointsDelete e => kd.handleEndpointDelete e

/-- The informer's store update, then the registered handler. -/
def step (kd : KubeDNS) (ev : Event) : KubeDNS :=
  (kd.storeUpdate ev).handle ev

end KubeDNS

/-- The IPs of every address of an endpoints object. -/
def addressIPs (e : Endpoints) : List String :=
  (addresses e).map EndpointAddress.ip

/-- The IPs an event may concern: the cluster IPs of the service objects it carries and the
address IPs of the stored Endpoints (for a service event), or the address IPs of the
endpoints objects it carries (for an endpoints event). -/
def Event.touchedIPs (kd : KubeDNS) : Event → List String
  | .serviceAdd s | .serviceDelete s =>
    getClusterIPs s ++ ((kd.endpointsStore s.key).map addressIPs).getD []
  | .serviceUpdate old new =>
    getClusterIPs old ++ getClusterIPs new ++ ((kd.endpointsStore new.key).map addressIPs).getD []
  | .endpointsAdd e | .endpointsDelete e => addressIPs e
  | .endpointsUpdate old new => addressIPs old ++ addressIPs new

/-- What the informer delivers: an add for an absent key, an update or a delete carrying
the stored object (an update keeps the key). -/
def Event.Valid (kd : KubeDNS) : Event → Prop
  | .serviceAdd s => kd.servicesStore s.key = none
  | .serviceUpdate old new => kd.servicesStore old.key = some old ∧ new.key = old.key
  | .serviceDelete s => kd.servicesStore s.key = some s
  | .endpointsAdd e => kd.endpointsStore e.key = none
  | .endpointsUpdate old new => kd.endpointsStore old.key = some old ∧ new.key = old.key
  | .endpointsDelete e => kd.endpointsStore e.key = some e

instance Event.decidableValid (kd : KubeDNS) : (ev : Event) → Decidable (ev.Valid kd)
  | .serviceAdd s => inferInstanceAs (Decidable (kd.servicesStore s.key = none))
  | .serviceUpdate old new =>
    inferInstanceAs (Decidable (kd.servicesStore old.key = some old ∧ new.key = old.key))
  | .serviceDelete s => inferInstanceAs (Decidable (kd.servicesStore s.key = some s))
  | .endpointsAdd e => inferInstanceAs (Decidable (kd.endpointsStore e.key = none))
  | .endpointsUpdate old new =>
    inferInstanceAs (Decidable (kd.endpointsStore old.key = some old ∧ new.key = old.key))
  | .endpointsDelete e => inferInstanceAs (Decidable (kd.endpointsStore e.key = some e))

/-- The cluster IPs a service holds: none unless its cluster IP is set. -/
def ownedClusterIPs (s : Service) : List String :=
  if isServiceIPSet s then getClusterIPs s else []

/-- The IPs the current service under `key` owns. -/
def KubeDNS.ownedIPs (kd : KubeDNS) (key : ObjectKey) : List String :=
  match kd.servicesStore key with
  | some s => ownedClusterIPs s ++ ((kd.endpointsStore key).map hostnamedIPs).getD []
  | none => []

/-- The services store holds each service under its own key, as `MetaNamespaceKeyFunc`
keys it. -/
def KeyedServices (kd : KubeDNS) : Prop :=
  ∀ key s, kd.servicesStore key = some s → s.key = key

/-- No IP is owned by two current services. -/
def DisjointIPs (kd : KubeDNS) : Prop :=
  ∀ k₁ k₂ ip, ip ∈ kd.ownedIPs k₁ → ip ∈ kd.ownedIPs k₂ → k₁ = k₂

/-- The states of valid runs from `NewKubeDNS(domain)` in which no IP is ever owned twice. -/
inductive Reachable : KubeDNS → Prop
  | init (domain : String) : Reachable (KubeDNS.newKubeDNS domain)
  | step {kd : KubeDNS} {ev : Event} :
      Reachable kd → ev.Valid kd → DisjointIPs (kd.step ev) → Reachable (kd.step ev)
  | offInformer {kd : KubeDNS} (config : Option Config) (nodes : List Node) :
      Reachable kd → Reachable { kd with config := config, nodesStore := nodes }

end KubeDns
