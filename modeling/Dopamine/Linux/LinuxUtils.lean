import Dopamine.Daemon.Rules
import Dopamine.Linux.RouteMonitor
import Dopamine.Linux.Uapi
import Dopamine.Linux.WireguardUtils
import Dopamine.Trace.Runs

/-!
# What Linux provides to the daemon

`WireguardUtilsLinux`, `IPUtilsLinux` and `DnsUtilsLinux` as the daemon calls them: the tunnel
process with its device, the routes, the resolvers of the tunnel's link and the kill switch. The
firewall rules are those of `WireguardUtilsLinux.applyConfig`.

The calls are the points at which the outside world answers; each gets a reply of its own. Those
that let other requests in while they wait are `waits`. When the process ends, its device goes, and
with it the routes into the tunnel and the resolvers of its link.
-/

namespace Dopamine.Linux

open Prog Routing WireguardUtilsLinux

variable (q : Platform)

/-- The calls of the daemon on Linux. -/
inductive LinuxCall where
  | interfaceExists
  /-- `m_tunnel.start` and `waitForStarted` -/
  | startTunnel
  /-- `waitForTunnelName`, and the new route monitor -/
  | waitForTunnelName
  | uapiCommand (lines : List UapiLine)
  | applyFirewallRules (config : InterfaceConfig)
  | deleteInterface
  /-- `addInterfaceIPs` or `setMTUAndUp` -/
  | interfaceIoctl
  | insertRoute (ip : IPAddress)
  | deleteRoute (ip : IPAddress)
  | addExclusionRoute (ip : IPAddress)
  | deleteExclusionRoute (ip : IPAddress)
  | updateResolvers (resolvers : List HostAddress)
  | restoreResolvers
  | qAssert

/-- What the system answers to a call. -/
structure LinuxReply where
  /-- the call succeeds, as far as the system is concerned -/
  ok : Bool
  /-- of a netlink request: the kernel takes it, if it is well formed -/
  accepted : Bool
  /-- a process that was killed is still there on return -/
  lingers : Bool
  /-- of a UAPI message that fails: how many of its lines took effect -/
  applied : ℕ
deriving DecidableEq

/-- Everything succeeds. -/
instance : Inhabited LinuxReply := ⟨⟨true, true, false, 0⟩⟩

/-- The part of the system the calls change. -/
structure LinuxState where
  /-- `m_tunnel.state()` -/
  tunnel : ProcessState
  /-- the device of the tunnel process -/
  device : Device
  /-- `m_rtmonitor` is not null -/
  monitor : Bool
  routes : Routes
  /-- the first of `getGatewayAndIface()` -/
  gateway : Option (BitVec 32)
  /-- the resolvers set for the link of the tunnel -/
  resolvers : Option (List HostAddress)
  service : Service

namespace LinuxUtils

/-- The tunnel process has ended. -/
def endTunnel (s : LinuxState) : LinuxState :=
  { s with
    tunnel := .NotRunning
    device := .init
    routes := s.routes.dropHop .tunnel
    resolvers := none }

variable (ip : IPAddress)

/-- A netlink request: without a monitor nothing is sent, nor for an address it cannot carry. -/
def netlink (r : LinuxReply) (change : IPAddress → Routes → Routes)
    (s : LinuxState) : Bool × LinuxState :=
  let sent := s.monitor && (buildAllowedIp ip).isSome && r.ok
  (sent, { s with routes := if sent && r.accepted then change ip s.routes else s.routes })

/-- A route into the tunnel names the interface, which must exist. -/
def tunnelNetlink (r : LinuxReply) (change : IPAddress → Routes → Routes)
    (s : LinuxState) : Bool × LinuxState :=
  if s.tunnel = .Running then netlink ip r change s else (false, s)

/-- A request only changes the routes. -/
theorem tunnelNetlink_snd (r : LinuxReply) (change : IPAddress → Routes → Routes)
    (s : LinuxState) :
    (tunnelNetlink ip r change s).2 =
      { s with
        routes := if s.tunnel = .Running ∧ s.monitor && (buildAllowedIp ip).isSome && r.ok &&
          r.accepted then change ip s.routes else s.routes } := by
  unfold tunnelNetlink
  by_cases hrun : s.tunnel = .Running
  · rw [if_pos hrun]
    simp only [netlink, hrun, true_and]
  · rw [if_neg hrun, if_neg fun h => hrun h.1]

/-- What the calls do. -/
def exec : LinuxCall → LinuxReply → LinuxState → Bool × LinuxState
  | .interfaceExists, _, s => (decide (s.tunnel = .Running), s)
  | .startTunnel, r, s =>
      if s.tunnel ≠ .NotRunning then (false, s)
      else if r.ok then (true, { s with tunnel := .Running, device := .init })
      else (false, { s with tunnel := if r.lingers then .Starting else .NotRunning })
  | .waitForTunnelName, r, s =>
      if s.tunnel = .Running ∧ r.ok then (true, { s with monitor := true })
      else (false, if r.lingers then s else endTunnel s)
  | .uapiCommand lines, r, s =>
      let ok := decide (s.tunnel = .Running) && r.ok
      let applied := if ok then lines.length else r.applied
      (ok, { s with
        device := if s.tunnel = .Running then s.device.apply (lines.take applied) else s.device })
  | .applyFirewallRules config, _, s =>
      (true, { s with service := applyConfig q config s.service })
  | .deleteInterface, _, s =>
      let s := { s with monitor := false }
      if s.tunnel = .NotRunning then (false, s)
      else (true, { endTunnel s with service := KillSwitch.disableKillSwitch q s.service })
  | .interfaceIoctl, r, s => (r.ok, s)
  | .insertRoute ip, r, s => tunnelNetlink ip r LinuxRouteMonitor.insertRoute s
  | .deleteRoute ip, r, s => tunnelNetlink ip r LinuxRouteMonitor.deleteRoute s
  | .addExclusionRoute ip, r, s =>
      netlink ip r (LinuxRouteMonitor.addExclusionRoute s.gateway) s
  | .deleteExclusionRoute ip, r, s =>
      netlink ip r (LinuxRouteMonitor.deleteExclusionRoute s.gateway) s
  | .updateResolvers resolvers, r, s =>
      -- the index of the interface is looked up first
      let ok := decide (s.tunnel = .Running) && r.ok
      (ok, { s with resolvers := if ok then some resolvers else s.resolvers })
  | .restoreResolvers, _, s => (true, { s with resolvers := none })
  | .qAssert, _, s => (true, s)

/-- The calls that process events while they wait. -/
def waits : LinuxCall → Bool
  | .waitForTunnelName => true
  | .uapiCommand _ => true
  | _ => false

/-! ## `WireguardUtilsLinux` -/

variable (config : InterfaceConfig)

/-- `addInterface`, once the interface has its name. The firewall rules come last, and only if the
device is configured. A process that refuses its configuration keeps running. -/
def configureInterface : Prog LinuxCall Daemon.State Bool := do
  if !(← perform (.uapiCommand (interfaceMessage config))) then
    return false
  if config.killSwitchEnabled then perform (.applyFirewallRules config) else pure true

/-- A process without a name is killed. -/
def addInterface : Prog LinuxCall Daemon.State Bool := do
  if !(← perform .startTunnel) then
    return false
  if !(← perform .waitForTunnelName) then
    return false
  configureInterface config

/-- Both addresses of the server, also an empty one, except for an exit server. -/
def serverRoutes : List IPAddress :=
  if config.hopType = .MultiHopExit then []
  else [IPAddress.ofString q config.serverIpv4AddrIn, IPAddress.ofString q config.serverIpv6AddrIn]

def updatePeer : Prog LinuxCall Daemon.State Bool := do
  each (fun ip => perform (.addExclusionRoute ip)) (serverRoutes q config)
  perform (.uapiCommand (updatePeerMessage config))

def deletePeer : Prog LinuxCall Daemon.State Bool := do
  each (fun ip => perform (.deleteExclusionRoute ip)) (serverRoutes q config)
  perform (.uapiCommand (deletePeerMessage config))

/-- The two halves of the address space, in the place of a default route. -/
def halves : List IPAddress :=
  match ip.address with
  | .ipv4 _ => [⟨.ipv4 0x00000000#32, 1⟩, ⟨.ipv4 0x80000000#32, 1⟩]
  | .ipv6 _ _ => [⟨.ipv6 0 "", 1⟩, ⟨.ipv6 (0x8000#16 ++ 0#112) "", 1⟩]
  | .null => []

def updateRoutePrefix : Prog LinuxCall Daemon.State Bool :=
  if ip.prefixLength > 0 then perform (.insertRoute ip)
  else if ip.address = .null then pure false
  else every (fun half => perform (.insertRoute half)) (halves ip)

/-- A range that is not the default is inserted here too. -/
def deleteRoutePrefix : Prog LinuxCall Daemon.State Bool :=
  if ip.prefixLength > 0 then perform (.insertRoute ip)
  else if ip.address = .null then pure false
  else every (fun half => perform (.deleteRoute half)) (halves ip)

/-- The local networks become routes into the tunnel. -/
def excludeLocalNetworks : List IPAddress → Prog LinuxCall Daemon.State Bool
  | [] => pure true
  | ip :: routes => do
      let inserted ← perform (.insertRoute ip)
      let rest ← excludeLocalNetworks routes
      return inserted && rest

/-- What Linux provides. `run` and `prepareActivation` are not overridden, and what is connected to
`activationFailure` only writes to the client. -/
def utils : Daemon.Utils LinuxCall where
  prepareActivation _ := pure true
  interfaceExists := perform .interfaceExists
  addInterface := addInterface
  deleteInterface := perform .deleteInterface
  addInterfaceIPs _ := perform .interfaceIoctl
  setMTUAndUp _ := perform .interfaceIoctl
  updatePeer := updatePeer q
  deletePeer := deletePeer q
  updateRoutePrefix := updateRoutePrefix
  deleteRoutePrefix := deleteRoutePrefix
  addExclusionRoute ip := perform (.addExclusionRoute ip)
  deleteExclusionRoute ip := perform (.deleteExclusionRoute ip)
  excludeLocalNetworks := excludeLocalNetworks
  updateResolvers resolvers := perform (.updateResolvers resolvers)
  restoreResolvers := perform .restoreResolvers
  run _ _ := pure true
  activationFailure := pure true
  qAssert _ := perform .qAssert

/-! ## Runs -/

/-- The state of the daemon with the system around it. -/
abbrev World := Sys Daemon.State LinuxState

/-- A request of the client with the replies of the system to its calls. -/
abbrev Served := Daemon.Request × List LinuxReply

/-- The result of a request and the state after it. -/
def serve (s : World) (e : Served) : Bool × World :=
  let r := Prog.run (exec q) (e.1.prog (utils q) q) e.2 s
  (r.1, r.2.2)

/-- The state after a request. -/
def serveStep (s : World) (e : Served) : World := (serve q s e).2

/-- What the daemon finds on the host. -/
structure LinuxHost where
  routes : Routes
  /-- there is no tunnel yet to route into -/
  untunneled : ∀ r ∈ routes, r.hop ≠ .tunnel
  gateway : Option (BitVec 32)
  service : Service

/-- The daemon when it starts on a host. -/
def boot (host : LinuxHost) : World :=
  ⟨.init, ⟨.NotRunning, .init, false, host.routes, host.gateway, none, host.service⟩⟩

/-- The daemon of a host after some requests. -/
abbrev served (host : LinuxHost) (es : List Served) : World :=
  Trace.run (serveStep q) (boot host) es

end LinuxUtils

end Dopamine.Linux
