import Dopamine.Client.ServersModel
import Dopamine.Client.SplitSettings
import Dopamine.Trace.Runs

/-!
# The routes of a connection on desktop

`VpnConnection` of `client/vpnconnection.cpp`, as far as it changes routes: what it does when the
state of the tunnel changes, the routes of the sites, and the refresh of these routes when the names
of the sites are looked up again.

Everything the connection waits for is an event: the answers to lookups, the timers, the reports of
the protocol, and the clearing of the routes that is queued when a tunnel goes down. Connecting is
two events, since `appendSplitTunnelingConfig` runs an event loop of its own in between. What a
protocol reports while it is stopped or started are events too. Adding and deleting routes succeeds.

Sites wait for one second and the first refresh for a minute, so no sites wait when a refresh
begins.

Generations do not overflow. `connections` counts the ends of connections; it is not in the source,
nor are the connection and the mode that a lookup of a refresh was made in.
-/

namespace Dopamine.Client

inductive ConnectionState where
  | unknown
  | disconnected
  | preparing
  | connecting
  | connected
  | disconnecting
  | reconnecting
  | error
deriving DecidableEq

def DockerContainer.isAwgContainer (c : DockerContainer) : Bool := c = .awg || c = .awg2

namespace Settings

/-- `server`: empty for an index that is not in the list. -/
def server (s : Settings) (index : ℤ) : QJsonObject :=
  if index < 0 then .empty
  else
    match s.serversArray[index.toNat]? with
    | some r => r.config
    | none => .empty

/-- `defaultContainer`. The name of no container stands for a missing one. -/
def defaultContainer (s : Settings) (serverIndex : ℤ) : DockerContainer :=
  .containerFromString ((s.server serverIndex).textAt "defaultContainer")

end Settings

/-- What the connection uses of a protocol. -/
structure VpnProtocol where
  vpnGateway : String
  routeGateway : String
deriving DecidableEq

/-- A call of the service. -/
inductive IpcCall where
  | resetIpStack
  | flushDns
  | routeAddList (gw : String) (ips : List String)
  | routeDeleteList (gw : String) (ips : List String)
  | clearSavedRoutes
deriving DecidableEq

/-- The routes of the service: a gateway and a destination each. -/
abbrev ServiceRoutes := List (String × Destination)

/-- What a call does to the routes. -/
def IpcCall.apply (q : Platform) (routes : ServiceRoutes) : IpcCall → ServiceRoutes
  | .routeAddList gw ips => routes ++ (ips.filterMap (destination q)).map fun d => (gw, d)
  | .routeDeleteList gw ips =>
      routes.filter fun r => ¬(r.1 = gw ∧ r.2 ∈ ips.filterMap (destination q))
  | .clearSavedRoutes => []
  | _ => routes

/-- A lookup that `addSitesRoutes` waits for. -/
structure SiteLookup where
  site : String
  gw : String
  mode : RouteMode
  ips : List String
  connection : ℕ
deriving DecidableEq

/-- A lookup that a refresh waits for. -/
structure RefreshLookup where
  generation : ℕ
  domain : String
  lastKnownIp : String
  mode : RouteMode
  connection : ℕ
deriving DecidableEq

/-- The connection, the routes of the service, and what is waited for. -/
structure VpnConnection where
  settings : Settings
  split : SplitSettings
  connectionState : ConnectionState
  vpnProtocol : Option VpnProtocol
  /-- `dns1` of `m_vpnConfiguration`. -/
  dns1 : String
  /-- `dns2` of `m_vpnConfiguration`. -/
  dns2 : String
  remoteAddress : String
  /-- Whether `m_splitRefreshTimer` runs. -/
  splitRefreshTimer : Bool
  splitRefreshGw : String
  splitRefreshMode : RouteMode
  installedSplitRoutes : List String
  splitRefreshResolved : List String
  splitRefreshGeneration : ℕ
  splitRefreshPending : ℤ
  /-- The routes of the service. -/
  routes : ServiceRoutes
  /-- The calls that were made to the service. -/
  calls : List IpcCall
  /-- How often the clearing of the routes is queued. -/
  clearings : ℕ
  /-- How many timers wait with sites. -/
  sitesTimers : ℕ
  /-- The timers that wait with a first refresh, each with its generation. -/
  firstRefreshes : List ℕ
  siteLookups : List SiteLookup
  refreshLookups : List RefreshLookup
  connections : ℕ

/-- The first IPv4 address of an answer, as text. -/
def firstIPv4 (addresses : List Address) : Option String :=
  (firstAddress addresses).map fun a => String.ofList (ipv4Chars a)

namespace VpnConnection

variable (q : Platform) (s : VpnConnection)

def call (c : IpcCall) : VpnConnection :=
  { s with
    routes := c.apply q s.routes
    calls := s.calls ++ [c] }

theorem call_split (c : IpcCall) : (s.call q c).split = s.split := rfl

def addSitesRoutes (gw : String) (mode : RouteMode) : VpnConnection :=
  let sites := s.split.vpnSites mode
  let ips := SplitSettings.siteIps q sites
  let s := s.call q (.routeAddList gw ips)
  { s with
    splitRefreshGw := gw
    splitRefreshMode := mode
    installedSplitRoutes := ips
    siteLookups := s.siteLookups ++ (SplitSettings.siteNames q sites).map
      fun site => ⟨site, gw, mode, ips, s.connections⟩ }

/-- The first refresh waits for a minute. -/
def waitForRefresh : VpnConnection :=
  { s with
    splitRefreshGeneration := s.splitRefreshGeneration + 1
    firstRefreshes := s.firstRefreshes ++ [s.splitRefreshGeneration + 1] }

variable (p : VpnProtocol)

/-- All addresses but that of the server are routed into the tunnel. -/
def routeAll : VpnConnection :=
  ((s.call q (.routeAddList p.vpnGateway ["0.0.0.0/1"])).call q
    (.routeAddList p.vpnGateway ["128.0.0.0/1"])).call q
    (.routeAddList p.routeGateway [s.remoteAddress])

theorem routeAll_split : (s.routeAll q p).split = s.split := by
  rw [routeAll, call_split, call_split, call_split]

/-- The routes of split tunneling when the tunnel is up. -/
def setupSplit : VpnConnection :=
  let t := s.call q (.routeDeleteList p.vpnGateway ["0.0.0.0"])
  match s.split.routeMode with
  | .vpnAllSites => t
  | .vpnOnlyForwardSites => { t with sitesTimers := t.sitesTimers + 1 }.waitForRefresh
  | .vpnAllExceptSites =>
      ((t.routeAll q p).addSitesRoutes q p.routeGateway .vpnAllExceptSites).waitForRefresh

/-- The routes of a tunnel that is not one of WireGuard, when it is up. -/
def setupRoutes : VpnConnection :=
  let t := s.call q (.routeAddList p.vpnGateway [s.dns1, s.dns2])
  if s.split.isSitesSplitTunnelingEnabled then t.setupSplit q p else t

/-- The container of the default server, which is not always that of the tunnel, is one of
WireGuard. -/
def isWireGuard : Bool :=
  let container := s.settings.defaultContainer s.settings.defaultServerIndex
  container.isAwgContainer || container = .wireGuard

/-- `onConnectionStateChanged` for a tunnel that is up. -/
def onConnected : VpnConnection :=
  let t := (s.call q .resetIpStack).call q .flushDns
  if s.isWireGuard then t
  else
    match s.vpnProtocol with
    | some p => t.setupRoutes q p
    | none => t

def onConnectionStateChanged (state : ConnectionState) : VpnConnection :=
  if state = .connected then s.onConnected q
  else
    { s with
      splitRefreshTimer := false
      splitRefreshGeneration := s.splitRefreshGeneration + 1
      splitRefreshPending := 0
      splitRefreshResolved := []
      installedSplitRoutes := []
      connections := s.connections + 1
      clearings :=
        if state = .disconnected ∨ state = .error then s.clearings + 1 else s.clearings }

def setConnectionState (state : ConnectionState) : VpnConnection :=
  let s := s.onConnectionStateChanged q state
  if state = .disconnected ∧ s.connectionState = .reconnecting then s
  else { s with connectionState := state }

theorem setConnectionState_connected : s.setConnectionState q .connected =
    { s.onConnected q with connectionState := .connected } := by
  rw [setConnectionState, onConnectionStateChanged, if_pos rfl]
  exact if_neg fun h => absurd h.1 (by decide)

/-- Routes are added and deleted so that they are those to `resolved`. -/
def applySplitRefreshDelta (resolved : List String) : VpnConnection :=
  if s.connectionState ≠ .connected then s
  else
    let added := resolved.filter fun ip => ip ∉ s.installedSplitRoutes
    let removed := s.installedSplitRoutes.filter fun ip => ip ∉ resolved
    let gw := s.splitRefreshGw
    let s := { s with installedSplitRoutes := resolved }
    let s := if added = [] then s else s.call q (.routeAddList gw added)
    if removed = [] then s else s.call q (.routeDeleteList gw removed)

/-- The names that a refresh looks up. -/
def refreshDomains : List String := SplitSettings.siteNames q (s.split.vpnSites s.splitRefreshMode)

/-- The addresses and subnets that a refresh does not look up. -/
def refreshSubnets : List String :=
  ((s.split.vpnSites s.splitRefreshMode).members.map Prod.fst).filter
    (NetworkUtilities.checkIpSubnetFormat q)

def refreshSitesRoutes : VpnConnection :=
  if s.connectionState ≠ .connected ∨ s.vpnProtocol = none ∨ 0 < s.splitRefreshPending then s
  else if s.refreshDomains q = [] then
    { s with splitRefreshResolved := [] }.applySplitRefreshDelta q (s.refreshSubnets q)
  else
    { s with
      splitRefreshResolved := s.refreshSubnets q
      splitRefreshPending := (s.refreshDomains q).length
      refreshLookups := s.refreshLookups ++ (s.refreshDomains q).map fun domain =>
        ⟨s.splitRefreshGeneration, domain,
          ((s.split.vpnSites s.splitRefreshMode).value domain).getD "", s.splitRefreshMode,
          s.connections⟩ }

/-! ## Events -/

/-- An address that was looked up for a site is routed. -/
def addRoute (l : SiteLookup) (ip : String) : VpnConnection :=
  { s.call q (.routeAddList l.gw [ip]) with
    split := s.split.addVpnSite l.mode l.site ip
    installedSplitRoutes := s.installedSplitRoutes.insert ip }

/-- A lookup of `addSitesRoutes` is answered. -/
def siteAnswered (l : SiteLookup) (addresses : List Address) : VpnConnection :=
  match firstIPv4 addresses with
  | none => s
  | some ip => (if ip ∈ l.ips then s else s.addRoute q l ip).call q .flushDns

variable (l : RefreshLookup) (addresses : List Address)

/-- What the answer to a lookup of a refresh adds to the addresses that were found. -/
def resolvedBy : Option String :=
  match firstIPv4 addresses with
  | some ip => some ip
  | none =>
      if NetworkUtilities.checkIpSubnetFormat q l.lastKnownIp then some l.lastKnownIp else none

/-- The addresses that a refresh found, with those of an answer. -/
def resolvedWith : List String :=
  match resolvedBy q l addresses with
  | some ip => s.splitRefreshResolved.insert ip
  | none => s.splitRefreshResolved

/-- The answer to a lookup of a refresh is kept. -/
def keepAnswer : VpnConnection :=
  { s with
    split :=
      match firstIPv4 addresses with
      | some ip => s.split.addVpnSite s.splitRefreshMode l.domain ip
      | none => s.split
    splitRefreshResolved := s.resolvedWith q l addresses
    splitRefreshPending := s.splitRefreshPending - 1 }

/-- A lookup of a refresh is answered. -/
def refreshAnswered : VpnConnection :=
  if l.generation ≠ s.splitRefreshGeneration ∨ s.connectionState ≠ .connected then s
  else if s.splitRefreshPending - 1 = 0 then
    { s.keepAnswer q l addresses with splitRefreshResolved := [] }.applySplitRefreshDelta q
      (s.resolvedWith q l addresses)
  else s.keepAnswer q l addresses

/-- The subnets that an Xray tunnel routes if there is no split tunneling. -/
def xraySubnets : List String :=
  ["1.0.0.0/8", "2.0.0.0/7", "4.0.0.0/6", "8.0.0.0/5", "16.0.0.0/4", "32.0.0.0/3", "64.0.0.0/2",
    "128.0.0.0/1"]

/-- What happens to a connection. -/
inductive Event where
  /-- The settings are edited. -/
  | edit (settings : Settings) (split : SplitSettings)
  /-- `connectToVpn` up to the config of split tunneling. -/
  | connectToVpn (remoteAddress dns1 dns2 : String)
  /-- The rest of `connectToVpn`. There may be no protocol for a container. -/
  | startProtocol (protocol : Option VpnProtocol)
  /-- `XrayProtocol::setupRouting`, before the protocol reports that it is connected. -/
  | setupRouting
  /-- The gateway that a WireGuard tunnel has. -/
  | statusUpdated (serverIpv4Gateway : String)
  /-- The protocol reports a state. -/
  | report (state : ConnectionState)
  | reconnectToVpn
  | disconnectFromVpn
  /-- The queued clearing of the routes. -/
  | clearRoutes
  /-- A timer that waits with sites. -/
  | addSites
  /-- A timer that waits with a first refresh. -/
  | firstRefresh (i : ℕ)
  /-- `m_splitRefreshTimer`. -/
  | refresh
  | siteAnswer (i : ℕ) (addresses : List Address)
  | refreshAnswer (i : ℕ) (addresses : List Address)

/-- What an event does. -/
def step (s : VpnConnection) : Event → VpnConnection
  | .edit settings split => { s with settings := settings, split := split }
  | .connectToVpn remoteAddress dns1 dns2 =>
      let s := { s with remoteAddress := remoteAddress }.setConnectionState q .connecting
      { s with dns1 := dns1, dns2 := dns2, vpnProtocol := none, sitesTimers := 0 }
  | .startProtocol protocol =>
      let s := { s with vpnProtocol := protocol, sitesTimers := 0 }
      if protocol = none then s.setConnectionState q .error else s
  | .setupRouting =>
      match s.vpnProtocol with
      | some p => s.call q (.routeAddList p.vpnGateway xraySubnets)
      | none => s
  | .statusUpdated gateway =>
      { s with vpnProtocol := s.vpnProtocol.map fun p => { p with vpnGateway := gateway } }
  | .report state => s.setConnectionState q state
  | .reconnectToVpn =>
      if s.vpnProtocol = none ∨ s.connectionState ≠ .connected then s
      else s.setConnectionState q .reconnecting
  | .disconnectFromVpn =>
      if s.vpnProtocol = none then s.setConnectionState q .disconnected
      else
        let s := s.setConnectionState q .disconnecting
        { s with vpnProtocol := none, sitesTimers := 0 }
  | .clearRoutes =>
      if s.clearings = 0 then s
      else (({ s with clearings := s.clearings - 1 }.call q .flushDns).call q .clearSavedRoutes)
  | .addSites =>
      match s.vpnProtocol with
      | some p =>
          if s.sitesTimers = 0 then s
          else { s with sitesTimers := s.sitesTimers - 1 }.addSitesRoutes q p.vpnGateway
            s.split.routeMode
      | none => s
  | .firstRefresh i =>
      match s.firstRefreshes[i]? with
      | some generation =>
          if s.sitesTimers ≠ 0 then s
          else
            let s := { s with firstRefreshes := s.firstRefreshes.eraseIdx i }
            if generation ≠ s.splitRefreshGeneration ∨ s.connectionState ≠ .connected then s
            else { s.refreshSitesRoutes q with splitRefreshTimer := true }
      | none => s
  | .refresh => if s.splitRefreshTimer ∧ s.sitesTimers = 0 then s.refreshSitesRoutes q else s
  | .siteAnswer i addresses =>
      match s.siteLookups[i]? with
      | some l => { s with siteLookups := s.siteLookups.eraseIdx i }.siteAnswered q l addresses
      | none => s
  | .refreshAnswer i addresses =>
      match s.refreshLookups[i]? with
      | some l =>
          { s with refreshLookups := s.refreshLookups.eraseIdx i }.refreshAnswered q l addresses
      | none => s

/-- The connection after some events. -/
def run (s : VpnConnection) (events : List Event) : VpnConnection := Trace.run (step q) s events

/-- The connection when the client starts. The source does not set the state of the connection. -/
def initial (settings : Settings) (split : SplitSettings) : VpnConnection where
  settings := settings
  split := split
  connectionState := .unknown
  vpnProtocol := none
  dns1 := ""
  dns2 := ""
  remoteAddress := ""
  splitRefreshTimer := false
  splitRefreshGw := ""
  splitRefreshMode := .vpnAllSites
  installedSplitRoutes := []
  splitRefreshResolved := []
  splitRefreshGeneration := 0
  splitRefreshPending := 0
  routes := []
  calls := []
  clearings := 0
  sitesTimers := 0
  firstRefreshes := []
  siteLookups := []
  refreshLookups := []
  connections := 0

end VpnConnection

end Dopamine.Client
