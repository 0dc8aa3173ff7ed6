import Dopamine.Daemon.InterfaceConfig
import Dopamine.Program.Prog

/-!
# The daemon

`Daemon` of `client/daemon/daemon.cpp` as programs over what a platform provides: `Utils` stands for
`wgutils()`, `iputils()`, `dnsutils()` and the virtual members of the class. The same programs run
on every platform, one after another or delivered inside one another.

`m_excludedAddrSet` counts the routes around the tunnel; it is a list with one entry for each time
an address counts. A lookup of an address that is not there adds it with a count of zero and it is
removed at once, so an entry is never zero. Signals to the client, the handshake timer and the log
are left out, except `activationFailure`, which a platform may be connected to.
-/

namespace Dopamine.Daemon

open Prog List Function

inductive Op where
  | Up
  | Down
  | Switch
deriving DecidableEq

/-- The members of `Daemon` that requests read and change. -/
structure State where
  connections : HopType → Option InterfaceConfig
  excludedAddrSet : List IPAddress
  deactivating : Bool

/-- The daemon when it is created. -/
def State.init : State := ⟨fun _ => none, [], false⟩

/-- What a platform provides. Without `supportIPUtils` the two calls of `iputils()` succeed and do
nothing. `activationFailure` is what is connected to that signal, and `qAssert` sees the conditions
of `Q_ASSERT`. -/
structure Utils (κ : Type) where
  prepareActivation : InterfaceConfig → Prog κ State Bool
  interfaceExists : Prog κ State Bool
  addInterface : InterfaceConfig → Prog κ State Bool
  deleteInterface : Prog κ State Bool
  addInterfaceIPs : InterfaceConfig → Prog κ State Bool
  setMTUAndUp : InterfaceConfig → Prog κ State Bool
  updatePeer : InterfaceConfig → Prog κ State Bool
  deletePeer : InterfaceConfig → Prog κ State Bool
  updateRoutePrefix : IPAddress → Prog κ State Bool
  deleteRoutePrefix : IPAddress → Prog κ State Bool
  addExclusionRoute : IPAddress → Prog κ State Bool
  deleteExclusionRoute : IPAddress → Prog κ State Bool
  excludeLocalNetworks : List IPAddress → Prog κ State Bool
  updateResolvers : List HostAddress → Prog κ State Bool
  restoreResolvers : Prog κ State Bool
  run : Op → InterfaceConfig → Prog κ State Bool
  activationFailure : Prog κ State Bool
  qAssert : Bool → Prog κ State Bool

/-- The local network ranges: `10.0.0.0/8`, `172.16.0.0/12`, `192.168.0.0/16`, `169.254.0.0/16`. -/
def kLanRanges : List IPAddress :=
  [⟨.ipv4 0x0a000000#32, 8⟩, ⟨.ipv4 0xac100000#32, 12⟩, ⟨.ipv4 0xc0a80000#32, 16⟩,
    ⟨.ipv4 0xa9fe0000#32, 16⟩]

/-- The order of the keys of `m_connections`. -/
def hops : List HopType := [.SingleHop, .MultiHopEntry, .MultiHopExit]

/-- `m_connections[config.m_hopType] = ConnectionState(config)`. -/
def connect (config : InterfaceConfig) (d : State) : State :=
  { d with connections := update d.connections config.hopType (some config) }

section Live

variable {config : InterfaceConfig} {d : State} {hop : HopType}

theorem connect_of_connected (h : d.connections config.hopType = some config) :
    connect config d = d := by
  unfold connect
  rw [← h, update_eq_self]

/-- The configurations of the live connections. -/
def State.live (d : State) : List InterfaceConfig := hops.filterMap d.connections

theorem State.live_eq_nil (h : d.connections = fun _ => none) : d.live = [] := by
  rw [live, h]
  rfl

theorem State.live_ne_nil (h : d.connections hop = some config) : d.live ≠ [] :=
  ne_nil_of_mem (mem_filterMap.mpr ⟨hop, by cases hop <;> decide, h⟩)

theorem State.connections_eq_none (h : d.live = []) (hop : HopType) : d.connections hop = none :=
  filterMap_eq_nil_iff.mp h hop (by cases hop <;> decide)

/-- The configurations of the live connections of the other hops. -/
def State.others (d : State) (hop : HopType) : List InterfaceConfig :=
  (hops.filter (· ≠ hop)).filterMap d.connections

theorem State.live_perm (d : State) (hop : HopType) :
    d.live.Perm ((d.connections hop).toList ++ d.others hop) := by
  have hsplit : hops.Perm (hop :: hops.filter (· ≠ hop)) := by cases hop <;> decide
  refine (hsplit.filterMap d.connections).trans (List.Perm.of_eq ?_)
  rw [filterMap_cons]
  cases d.connections hop <;> rfl

theorem State.live_perm_others (h : d.connections hop = none) : d.live.Perm (d.others hop) := by
  have hperm := d.live_perm hop
  rwa [h] at hperm

theorem State.live_perm_cons (h : d.connections hop = some config) :
    d.live.Perm (config :: d.others hop) := by
  have hperm := d.live_perm hop
  rwa [h] at hperm

theorem connect_others (config : InterfaceConfig) (d : State) :
    (connect config d).others config.hopType = d.others config.hopType := by
  refine filterMap_congr fun hop hhop => ?_
  have hne : hop ≠ config.hopType := by simpa using (mem_filter.mp hhop).2
  exact update_of_ne hne ..

/-- The live connections after one of them is set. -/
theorem live_connect_perm (config : InterfaceConfig) (d : State) :
    (connect config d).live.Perm (config :: d.others config.hopType) := by
  rw [← connect_others]
  exact State.live_perm_cons (update_self ..)

end Live

/-- The excluded addresses of a configuration, as `IPAddress(i)`. -/
def excluded (q : Platform) (config : InterfaceConfig) : List IPAddress :=
  config.excludedAddresses.map (IPAddress.ofString q)

/-- The resolvers `maybeUpdateResolvers` asks for. -/
def resolvers (q : Platform) (config : InterfaceConfig) : List HostAddress :=
  HostAddress.ofString q config.primaryDnsServer ::
    ((if config.secondaryDnsServer = "" then []
        else [HostAddress.ofString q config.secondaryDnsServer]) ++
      if config.primaryDnsServer = config.serverIpv4Gateway then
        [HostAddress.ofString q config.serverIpv6Gateway]
      else [])

section

variable {κ : Type} (u : Utils κ) (q : Platform) (config : InterfaceConfig)

def maybeUpdateResolvers : Prog κ State Bool :=
  if config.hopType = .MultiHopExit ∨ config.hopType = .SingleHop then
    u.updateResolvers (resolvers q config)
  else pure true

/-- A further use of an address counts; the first one asks for the route. -/
def addExclusionRoute (ip : IPAddress) : Prog κ State Bool := do
  let d ← read
  if ip ∈ d.excludedAddrSet then
    modify fun d => { d with excludedAddrSet := ip :: d.excludedAddrSet }
    return true
  if !(← u.addExclusionRoute ip) then
    return false
  modify fun d => { d with excludedAddrSet := ip :: d.excludedAddrSet }
  return true

/-- One use less; the last one deletes the route. -/
def delExclusionRoute (ip : IPAddress) : Prog κ State Bool := do
  let d ← read
  discard (u.qAssert (decide (ip ∈ d.excludedAddrSet)))
  modify fun d => { d with excludedAddrSet := d.excludedAddrSet.erase ip }
  if 1 < d.excludedAddrSet.count ip then
    return true
  u.deleteExclusionRoute ip

/-- Deactivate one connection: its routes and its peer. -/
def removeConnection (hop : HopType) : Prog κ State Bool := do
  let d ← read
  match d.connections hop with
  | none => return true
  | some config =>
      each u.deleteRoutePrefix config.allowedIPAddressRanges
      u.deletePeer config

/-- `run(Down, m_connections.first())`, if there is a connection. -/
def runDown : Prog κ State Bool := do
  let d ← read
  match d.live with
  | [] => return true
  | config :: _ => u.run .Down config

def deactivate : Prog κ State Bool := do
  let d ← read
  if d.deactivating then
    return true
  modify fun d => { d with deactivating := true }
  discard (runDown u)
  discard u.restoreResolvers
  each (removeConnection u) hops
  let d ← read
  each u.deleteExclusionRoute d.excludedAddrSet.dedup
  modify fun d => { d with excludedAddrSet := [], connections := fun _ => none }
  let removed ← u.deleteInterface
  modify fun d => { d with deactivating := false }
  return removed

variable (lastConfig : InterfaceConfig)

/-- Remove the old peer if it is no longer necessary. -/
def removeLast : Prog κ State Bool :=
  if config.serverPublicKey ≠ lastConfig.serverPublicKey then u.deletePeer lastConfig
  else pure true

/-- A failure to change a route does not stop the switch. -/
def switchServer : Prog κ State Bool := do
  each (addExclusionRoute u) (excluded q config)
  if !(← u.updatePeer config) then
    return false
  discard (every u.updateRoutePrefix config.allowedIPAddressRanges)
  each (delExclusionRoute u) (excluded q lastConfig)
  each u.deleteRoutePrefix
    (lastConfig.allowedIPAddressRanges.filter (· ∉ config.allowedIPAddressRanges))
  if !(← removeLast u config lastConfig) then
    return false
  modify (connect config)
  return true

/-- `activate`, when the hop is connected and the server can be switched. -/
def switchTo : Prog κ State Bool := do
  if !(← switchServer u q config lastConfig) then
    return false
  if !(← u.restoreResolvers) then
    return false
  if !(← maybeUpdateResolvers u q config) then
    return false
  if !(← u.run .Switch config) then
    return false
  modify (connect config)
  return true

/-- Bring up the interface unless it is there. -/
def ensureInterface : Prog κ State Bool := do
  if ← u.interfaceExists then
    return true
  u.addInterface config

/-- Route the excluded addresses and, unless it goes through the tunnel, the local network. A
failure is only logged. -/
def excludeRoutes : Prog κ State Unit := do
  each (addExclusionRoute u) (excluded q config)
  discard (if config.routeLanThroughVpn then pure true else u.excludeLocalNetworks kLanRanges)

/-- `activate`, once the interface is there. -/
def configure : Prog κ State Bool := do
  if !(← u.addInterfaceIPs config) then
    return false
  if !(← u.setMTUAndUp config) then
    return false
  excludeRoutes u q config
  if !(← u.updatePeer config) then
    return false
  if !(← maybeUpdateResolvers u q config) then
    return false
  if !(← every u.updateRoutePrefix config.allowedIPAddressRanges) then
    return false
  if !(← u.run .Up config) then
    return false
  modify (connect config)
  return true

/-- `activate`, when the hop is not connected. -/
def bringUp : Prog κ State Bool := do
  discard (u.prepareActivation config)
  if !(← ensureInterface u config) then
    return false
  configure u q config

/-- The guard that emits `activationFailure` unless the activation succeeds. -/
def guarded (p : Prog κ State Bool) : Prog κ State Bool := do
  let ok ← p
  if ok then
    return true
  discard u.activationFailure
  return false

/-- `activate`, when the hop is connected and the server cannot be switched. A deactivation that is
in progress already returns at once and leaves the hop connected. -/
def reactivate : Prog κ State Bool := do
  if !(← deactivate u) then
    return false
  let d ← read
  if (d.connections config.hopType).isSome then
    return false
  guarded u (bringUp u q config)

def activate : Prog κ State Bool := do
  let d ← read
  guarded u
    (match d.connections config.hopType with
    | none => bringUp u q config
    | some lastConfig =>
        if supportServerSwitching lastConfig config then switchTo u q config lastConfig
        else reactivate u q config)

end

/-- What a client asks for. -/
inductive Request where
  | activate (config : InterfaceConfig)
  | deactivate

/-- The program of a request. -/
def Request.prog {κ : Type} (u : Utils κ) (q : Platform) : Request → Prog κ State Bool
  | .activate config => Daemon.activate u q config
  | .deactivate => Daemon.deactivate u

end Dopamine.Daemon
