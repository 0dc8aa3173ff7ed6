import Dopamine.Client.VpnConnection

/-!
# The setup of the routes of a row

`ConnectionController::connectToServerIndexWithIp` connects a row of the list of servers, which need
not be that of the default server. What is done when the tunnel is up should depend on this row
only.

It depends on two other servers. `VpnConnection` takes the container of the default server, and
`ServersModel::getDnsPair` takes the name servers of the processed one. `connected_same_iff` says
for which servers the setup is the same.

The config of the container is left out: nothing that is done when the tunnel is up depends on it.
-/

namespace Dopamine.Client

open QJsonObject List Bool

/-- What connecting a row reads.

* `lookup` is `QHostInfo::fromName`, with the first address as text.
* `isSupported` is `ContainersModel::isSupportedByCurrentPlatform`. -/
structure ConnectionController where
  model : ServersModel
  split : SplitSettings
  isAmneziaDnsEnabled : Bool
  primaryDns : String
  secondaryDns : String
  lookup : String → Option String
  isSupported : DockerContainer → Bool

namespace ConnectionController

variable (q : Platform) (c : ConnectionController)

def getIPAddress (host : String) : String :=
  match HostAddress.ofString q host with
  | .null => (c.lookup host).getD ""
  | _ => host

/-- The config of the processed server, empty if there is none. -/
def processedServer : QJsonObject :=
  if c.model.processedServerIndex < 0 then .empty
  else c.model.getServerConfig c.model.processedServerIndex.toNat

/-- `ServersModel::getDnsPair`. The row is not used. -/
def getDnsPair (_row : ℕ) : String × String :=
  let server := c.processedServer
  let isDnsContainerInstalled := (server.arrayAt "containers").any fun container =>
    DockerContainer.containerFromString ((Json.toObject (some container)).textAt "container") = .dns
  let dns1 := server.textAt "dns1"
  let dns2 := server.textAt "dns2"
  (if dns1 = "" ∨ NetworkUtilities.checkIPv4Format q dns1 = false then
      if c.isAmneziaDnsEnabled && isDnsContainerInstalled then "172.29.172.254" else c.primaryDns
    else dns1,
    if dns2 = "" ∨ NetworkUtilities.checkIPv4Format q dns2 = false then c.secondaryDns else dns2)

def container (row : ℕ) : DockerContainer :=
  .containerFromString ((c.model.getServerConfig row).textAt "defaultContainer")

/-- The name servers of `createVpnConfiguration`. -/
def configDns (row : ℕ) : String × String :=
  if (c.container row).containerService = .other then ("", "") else c.getDnsPair q row

/-- The host of a connection: one that is given, or that of the row. -/
def hostName (row : ℕ) (ip : String) : String :=
  if ip = "" then (c.model.getServerConfig row).textAt "hostName" else ip

/-- `connectToServerIndexWithIp`: the request to the connection, if the container is supported. -/
def connectToServerIndexWithIp (row : ℕ) (ip : String) : Option VpnConnection.Event :=
  if c.isSupported (c.container row) then
    some (.connectToVpn (c.getIPAddress q (c.hostName row ip)) (c.configDns q row).1
      (c.configDns q row).2)
  else none

end ConnectionController

/-- What a connection does to routes, names and sites. -/
structure Operations where
  calls : List IpcCall
  sitesTimers : ℕ
  firstRefreshes : List ℕ
  siteLookups : List SiteLookup
deriving DecidableEq

/-- What a connection did so far. -/
def VpnConnection.operations (s : VpnConnection) : Operations :=
  ⟨s.calls, s.sitesTimers, s.firstRefreshes, s.siteLookups⟩

namespace ConnectionController

variable (q : Platform) (c c' : ConnectionController)

/-- A row is connected with a protocol, and the tunnel is up. -/
def connected (s : VpnConnection) (row : ℕ) (ip : String) (p : VpnProtocol) : VpnConnection :=
  let s := { s with settings := c.model.settings, split := c.split }
  match c.connectToServerIndexWithIp q row ip with
  | some request => s.run q [request, .startProtocol (some p), .report .connected]
  | none => s

/-- The default server and the servers of other rows may differ. -/
structure SameRow (row : ℕ) : Prop where
  row : c'.model.getServerConfig row = c.model.getServerConfig row
  processed : c'.model.processedServerIndex = c.model.processedServerIndex
  split : c'.split = c.split
  isAmneziaDnsEnabled : c'.isAmneziaDnsEnabled = c.isAmneziaDnsEnabled
  primaryDns : c'.primaryDns = c.primaryDns
  secondaryDns : c'.secondaryDns = c.secondaryDns
  lookup : c'.lookup = c.lookup
  isSupported : c'.isSupported = c.isSupported

/-- The container of the default server is one of WireGuard. -/
def defaultIsWireGuard : Bool :=
  let container := c.model.settings.defaultContainer c.model.settings.defaultServerIndex
  container.isAwgContainer || container = .wireGuard

end ConnectionController

/-! ## The tunnel is up -/

namespace VpnConnection

variable {q : Platform} {s : VpnConnection}

theorem onConnected_of_wireGuard (h : s.isWireGuard = true) :
    (s.onConnected q).operations = ⟨s.calls ++ [.resetIpStack] ++ [.flushDns], s.sitesTimers,
      s.firstRefreshes, s.siteLookups⟩ := by
  rw [onConnected, if_pos h]
  rfl

variable {p : VpnProtocol} {l : List IpcCall}

theorem onConnected_of_protocol (h : s.isWireGuard = false) (hp : s.vpnProtocol = some p) :
    s.onConnected q = ((s.call q .resetIpStack).call q .flushDns).setupRoutes q p := by
  rw [onConnected, if_neg (eq_false_iff.mp h), hp]

variable (s)

theorem setupSplit_settings (settings : Settings) (p : VpnProtocol) :
    { s with settings := settings }.setupSplit q p =
      { s.setupSplit q p with settings := settings } := by
  rw [setupSplit, setupSplit]
  cases s.split.routeMode with
  | vpnAllSites => rfl
  | vpnOnlyForwardSites => rfl
  | vpnAllExceptSites => rfl

/-- The setup of the routes reads no servers. -/
theorem setupRoutes_settings (settings : Settings) (p : VpnProtocol) :
    { s with settings := settings }.setupRoutes q p =
      { s.setupRoutes q p with settings := settings } := by
  rw [setupRoutes, setupRoutes]
  split_ifs
  · exact setupSplit_settings (s.call q (.routeAddList p.vpnGateway [s.dns1, s.dns2])) settings p
  · rfl

theorem call_calls (c : IpcCall) : (s.call q c).calls = s.calls ++ [c] := rfl

theorem waitForRefresh_calls : s.waitForRefresh.calls = s.calls := rfl

variable {s}

theorem prefix_call (h : l <+: s.calls) (c : IpcCall) : l <+: (s.call q c).calls :=
  h.trans (prefix_append ..)

theorem prefix_routeAll (h : l <+: s.calls) (p : VpnProtocol) : l <+: (s.routeAll q p).calls := by
  rw [routeAll]
  exact prefix_call (prefix_call (prefix_call h _) _) _

theorem prefix_addSitesRoutes (h : l <+: s.calls) (gw : String) (mode : RouteMode) :
    l <+: (s.addSitesRoutes q gw mode).calls :=
  h.trans (prefix_append ..)

theorem prefix_setupSplit (h : l <+: s.calls) (p : VpnProtocol) :
    l <+: (s.setupSplit q p).calls := by
  have hdelete := prefix_call (q := q) h (.routeDeleteList p.vpnGateway ["0.0.0.0"])
  rw [setupSplit]
  split
  · exact hdelete
  · exact hdelete
  · rw [waitForRefresh_calls]
    exact prefix_addSitesRoutes (prefix_routeAll hdelete p) p.routeGateway .vpnAllExceptSites

variable (s) (remoteAddress dns1 dns2 : String)

/-- The setup of the routes begins with the name servers. -/
theorem prefix_setupRoutes (p : VpnProtocol) :
    s.calls ++ [.routeAddList p.vpnGateway [s.dns1, s.dns2]] <+: (s.setupRoutes q p).calls := by
  rw [setupRoutes, ← call_calls (q := q)]
  split_ifs
  · exact prefix_setupSplit prefix_rfl p
  · exact prefix_rfl

/-- The connection that waits for a protocol to be up. -/
def waiting (p : VpnProtocol) : VpnConnection :=
  { s with
    connectionState := .connecting
    remoteAddress := remoteAddress
    dns1 := dns1
    dns2 := dns2
    vpnProtocol := some p
    splitRefreshTimer := false
    splitRefreshGeneration := s.splitRefreshGeneration + 1
    splitRefreshPending := 0
    splitRefreshResolved := []
    installedSplitRoutes := []
    sitesTimers := 0
    connections := s.connections + 1 }

theorem step_connectToVpn (p : VpnProtocol) :
    (s.step q (.connectToVpn remoteAddress dns1 dns2)).step q (.startProtocol (some p)) =
      s.waiting remoteAddress dns1 dns2 p := by
  have hconnecting : ∀ t : VpnConnection, t.setConnectionState q .connecting =
      { t.onConnectionStateChanged q .connecting with connectionState := .connecting } := fun t => by
    rw [setConnectionState]
    exact if_neg fun h => absurd h.1 (by decide)
  have hne : ¬ConnectionState.connecting = .connected := by decide
  rw [step, step, hconnecting, onConnectionStateChanged, if_neg hne, if_neg (Option.some_ne_none p)]
  rfl

theorem run_connected (p : VpnProtocol) :
    (s.run q [.connectToVpn remoteAddress dns1 dns2, .startProtocol (some p),
      .report .connected]).operations =
      ((s.waiting remoteAddress dns1 dns2 p).onConnected q).operations := by
  show (((s.step q (.connectToVpn remoteAddress dns1 dns2)).step q
    (.startProtocol (some p))).setConnectionState q .connected).operations = _
  rw [step_connectToVpn, setConnectionState_connected]
  rfl

/-- Whether two connections do the same when their tunnel is up. They may have other servers. -/
theorem operations_eq_iff (settings : Settings) (dns1 dns2 : String)
    (hp : s.vpnProtocol = some p) :
    ({ s with settings := settings, dns1 := dns1, dns2 := dns2 }.onConnected q).operations =
        (s.onConnected q).operations ↔
      { s with settings := settings }.isWireGuard = s.isWireGuard ∧
        (s.isWireGuard = false → (dns1, dns2) = (s.dns1, s.dns2)) := by
  have hcalls : ∀ t : VpnConnection, t.vpnProtocol = some p → t.isWireGuard = false →
      t.calls ++ [.resetIpStack] ++ [.flushDns] ++ [.routeAddList p.vpnGateway [t.dns1, t.dns2]] <+:
        (t.onConnected q).calls := by
    intro t ht hfalse
    rw [onConnected_of_protocol hfalse ht]
    exact prefix_setupRoutes ((t.call q .resetIpStack).call q .flushDns) p
  -- With WireGuard there are two calls only.
  have hdiffer : ∀ t u : VpnConnection, t.vpnProtocol = some p → t.calls = u.calls →
      t.isWireGuard = false → u.isWireGuard = true →
      (t.onConnected q).operations ≠ (u.onConnected q).operations := by
    intro t u ht hsame hfalse htrue heq
    have hprefix := hcalls t ht hfalse
    rw [onConnected_of_wireGuard htrue] at heq
    rw [show (t.onConnected q).calls = _ from congrArg Operations.calls heq, hsame] at hprefix
    exact absurd hprefix.length_le (by simp)
  have hp' : { s with settings := settings, dns1 := dns1, dns2 := dns2 }.vpnProtocol = some p := hp
  have hclass : { s with settings := settings, dns1 := dns1, dns2 := dns2 }.isWireGuard =
      { s with settings := settings }.isWireGuard := rfl
  rw [← hclass]
  set t : VpnConnection := { s with settings := settings, dns1 := dns1, dns2 := dns2 } with ht
  cases hs : s.isWireGuard with
  | true =>
    cases htclass : t.isWireGuard with
    | true =>
      refine iff_of_true ?_ ⟨rfl, fun h => absurd h.symm false_ne_true⟩
      rw [onConnected_of_wireGuard hs, onConnected_of_wireGuard htclass]
    | false =>
      exact iff_of_false (hdiffer t s hp' rfl htclass hs) fun h => absurd h.1 false_ne_true
  | false =>
    cases htclass : t.isWireGuard with
    | true =>
      exact iff_of_false (hdiffer s t hp rfl hs htclass ∘ Eq.symm) fun h =>
        absurd h.1.symm false_ne_true
    | false =>
      constructor
      · intro heq
        refine ⟨rfl, fun _ => ?_⟩
        have hprefix := hcalls t hp' htclass
        rw [show (t.onConnected q).calls = (s.onConnected q).calls from
          congrArg Operations.calls heq] at hprefix
        have hcall := (prefix_of_prefix_length_le hprefix (hcalls s hp hs)
          (by simp [ht])).eq_of_length (by simp [ht])
        have hlast : [IpcCall.routeAddList p.vpnGateway [dns1, dns2]] =
            [.routeAddList p.vpnGateway [s.dns1, s.dns2]] := append_cancel_left hcall
        injection hlast with hcall
        injection hcall with _ hdns
        injection hdns with hdns1 hdns
        injection hdns with hdns2
        exact Prod.ext hdns1 hdns2
      · rintro ⟨-, hdns⟩
        obtain ⟨rfl, rfl⟩ := Prod.mk.inj (hdns rfl)
        rw [onConnected_of_protocol htclass hp', onConnected_of_protocol hs hp]
        exact (congrArg operations (setupRoutes_settings
          ((s.call q .resetIpStack).call q .flushDns) settings p)).trans rfl

end VpnConnection

namespace ConnectionController

variable {q : Platform} {c c' : ConnectionController} {row : ℕ}

theorem SameRow.container_eq (h : SameRow c c' row) : c'.container row = c.container row := by
  rw [container, h.row, container]

theorem SameRow.hostName_eq (h : SameRow c c' row) (ip : String) :
    c'.hostName row ip = c.hostName row ip := by
  rw [hostName, h.row, hostName]

theorem SameRow.getIPAddress_eq (h : SameRow c c' row) (host : String) :
    c'.getIPAddress q host = c.getIPAddress q host := by
  rw [getIPAddress, h.lookup, getIPAddress]

/-- Connecting a row with another default server and other servers does the same when the tunnel is
up exactly if the containers of the default servers are both of WireGuard or both not, and, if they
are not, the name servers of the processed server are the same. -/
theorem connected_same_iff (h : SameRow c c' row) (s : VpnConnection) (ip : String)
    (p : VpnProtocol) :
    (c'.connected q s row ip p).operations = (c.connected q s row ip p).operations ↔
      (c.isSupported (c.container row) = true →
        c'.defaultIsWireGuard = c.defaultIsWireGuard ∧
          (c.defaultIsWireGuard = false → c'.configDns q row = c.configDns q row)) := by
  rw [connected, connected, connectToServerIndexWithIp, connectToServerIndexWithIp,
    h.container_eq, h.isSupported, h.hostName_eq, h.getIPAddress_eq, h.split]
  by_cases hsupported : c.isSupported (c.container row) = true
  · rw [if_pos hsupported, if_pos hsupported]
    rw [VpnConnection.run_connected, VpnConnection.run_connected]
    refine Iff.trans ?_ (forall_prop_of_true hsupported).symm
    exact VpnConnection.operations_eq_iff (VpnConnection.waiting
      { s with settings := c.model.settings, split := c.split } _ _ _ p) c'.model.settings
      (c'.configDns q row).1 (c'.configDns q row).2 rfl
  · rw [if_neg hsupported, if_neg hsupported]
    exact iff_of_true rfl fun htrue => absurd htrue hsupported

/-- A client with an AmneziaWG server and an Xray server, of which the second one is processed. -/
def failover (defaultIndex : ℤ) : ConnectionController where
  model := (ServersModel.resetModel
    [.ofMembers [("defaultContainer", .string "amnezia-awg")],
      .ofMembers [("defaultContainer", .string "amnezia-xray"),
        ("hostName", .string "203.0.113.7")]] 1).setDefaultServerIndex defaultIndex
  split := ⟨true, .vpnAllExceptSites, fun _ => Maps.SortedMap.empty.set "198.51.100.0/24" (some "")⟩
  isAmneziaDnsEnabled := false
  primaryDns := "1.1.1.1"
  secondaryDns := "1.0.0.1"
  lookup _ := none
  isSupported _ := true

/-- The second server is connected. -/
def failedOver (defaultIndex : ℤ) : VpnConnection :=
  (failover defaultIndex).connected .plain (.initial ⟨[], 0⟩ (failover 0).split) 1 ""
    ⟨"10.33.0.2", "192.168.1.1"⟩

theorem sameRow_failover : SameRow (failover 1) (failover 0) 1 :=
  ⟨rfl, rfl, rfl, rfl, rfl, rfl, rfl, rfl⟩

/-- `connected_same_iff` for the client with either server as the default one. -/
theorem connected_same_iff_failover : SameRow (failover 1) (failover 0) 1 ∧
    ((failedOver 0).operations = (failedOver 1).operations ↔
      ((failover 1).isSupported ((failover 1).container 1) = true →
        (failover 0).defaultIsWireGuard = (failover 1).defaultIsWireGuard ∧
          ((failover 1).defaultIsWireGuard = false →
            (failover 0).configDns .plain 1 = (failover 1).configDns .plain 1))) :=
  ⟨sameRow_failover, connected_same_iff sameRow_failover _ _ _⟩

/-- No routes are set up for the Xray server while the default server is the other one. -/
theorem connected_differs : SameRow (failover 1) (failover 0) 1 ∧
    (failedOver 0).operations.calls = [.resetIpStack, .flushDns] ∧
    (failedOver 1).operations.calls =
      [.resetIpStack, .flushDns, .routeAddList "10.33.0.2" ["1.1.1.1", "1.0.0.1"],
        .routeDeleteList "10.33.0.2" ["0.0.0.0"], .routeAddList "10.33.0.2" ["0.0.0.0/1"],
        .routeAddList "10.33.0.2" ["128.0.0.0/1"], .routeAddList "192.168.1.1" ["203.0.113.7"],
        .routeAddList "192.168.1.1" ["198.51.100.0/24"]] := by
  refine ⟨sameRow_failover, ?_, ?_⟩ <;> decide +kernel

end ConnectionController

end Dopamine.Client
