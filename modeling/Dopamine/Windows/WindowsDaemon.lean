import Dopamine.Daemon.Rules
import Dopamine.Trace.Runs
import Dopamine.Windows.WindowsFirewall

/-!
# The daemon on Windows

What `WireguardUtilsWindows` and `WindowsDaemon` do to the firewall, when every call of the filter
engine succeeds. The tunnel service runs from the moment it is started until it is stopped. Routes,
resolvers and the split tunnel do not reach the firewall: they are `WindowsCall.other`, whose result
is the reply, or left out where nobody looks at the result.

The requests of the daemon are executed one after another here.
-/

namespace Dopamine.Windows

open Prog

/-- The calls of the daemon. -/
inductive WindowsCall where
  | other
  /-- `m_tunnel.isRunning()` -/
  | interfaceExists
  /-- `m_tunnel.start(configString)` -/
  | startTunnel
  /-- `m_tunnel.stop()` -/
  | stopTunnel
  | allowAllTraffic
  | enableInterface
  | enablePeerTraffic (config : InterfaceConfig)
  | disablePeerTraffic (pubkey : String)
  | enableLanBypass (ranges : List IPAddress)
  | disableKillSwitch

/-- What the system answers to a call. -/
structure WindowsReply where
  /-- the call succeeds, as far as the system is concerned -/
  ok : Bool
  /-- of `enableInterface`: the index of the tunnel -/
  ifindex : ℤ

instance : Inhabited WindowsReply := ⟨⟨true, 1⟩⟩

/-- The part of the system the calls change. -/
structure WindowsState where
  /-- the tunnel service runs -/
  tunnel : Bool
  firewall : Firewall

namespace WindowsFirewall

/-- Every call of the filter engine succeeds. -/
def always (_ : ℕ) (_ : WfpCall) : Bool := true

/-- The firewall after a function that returns. When every call of the engine succeeds, three nested
calls are enough. -/
def after (f : ℕ → Firewall → Option (Bool × Firewall)) (fw : Firewall) : Firewall :=
  ((f 3 fw).map (·.2)).getD fw

end WindowsFirewall

namespace WindowsDaemon

open WindowsFirewall

variable (host : WindowsHost) (q : Platform)

/-- What the calls do. The results of the firewall are ignored by all callers but one, where they
are true. -/
def exec : WindowsCall → WindowsReply → WindowsState → Bool × WindowsState
  | .other, r, s => (r.ok, s)
  | .interfaceExists, _, s => (s.tunnel, s)
  | .startTunnel, r, s => (r.ok, { s with tunnel := r.ok })
  | .stopTunnel, _, s => (true, { s with tunnel := false })
  | .allowAllTraffic, _, s =>
      (true, { s with firewall := (WindowsFirewall.allowAllTraffic always s.firewall).2 })
  | .enableInterface, r, s =>
      (true, { s with
        firewall := after (WindowsFirewall.enableInterface host always · r.ifindex) s.firewall })
  | .enablePeerTraffic config, _, s =>
      (true, { s with
        firewall := after (WindowsFirewall.enablePeerTraffic host always q · config) s.firewall })
  | .disablePeerTraffic pubkey, _, s =>
      (true, { s with firewall := (WindowsFirewall.disablePeerTraffic always pubkey s.firewall).2 })
  | .enableLanBypass ranges, _, s =>
      (true, { s with
        firewall := after (WindowsFirewall.enableLanBypass host always · ranges) s.firewall })
  | .disableKillSwitch, _, s =>
      (true, { s with
        firewall := after (WindowsFirewall.disableKillSwitch host always) s.firewall })

variable (config : InterfaceConfig)

/-- Start the tunnel service and find the interface; then the firewall is enabled from scratch. -/
def addInterface : Prog WindowsCall Daemon.State Bool := do
  if !(← perform .startTunnel) then
    return false
  if !(← perform .other) then
    return false
  if config.killSwitchEnabled then
    discard (perform .allowAllTraffic)
    discard (perform .enableInterface)
  return true

def deleteInterface : Prog WindowsCall Daemon.State Bool := do
  discard (perform .disableKillSwitch)
  perform .stopTunnel

/-- The firewall comes before a server without an address is refused. -/
def updatePeer : Prog WindowsCall Daemon.State Bool := do
  if config.killSwitchEnabled then
    discard (perform (.enablePeerTraffic config))
  perform .other

def deletePeer : Prog WindowsCall Daemon.State Bool := do
  discard (perform (.disablePeerTraffic config.serverPublicKey))
  return true

def excludeLocalNetworks (addresses : List IPAddress) : Prog WindowsCall Daemon.State Bool := do
  let routed ← perform .other
  let permitted ← perform (.enableLanBypass addresses)
  return routed && permitted

/-- What Windows provides. There are no `iputils()`. -/
def utils : Daemon.Utils WindowsCall where
  prepareActivation _ := pure true
  interfaceExists := perform .interfaceExists
  addInterface := addInterface
  deleteInterface := deleteInterface
  addInterfaceIPs _ := pure true
  setMTUAndUp _ := pure true
  updatePeer := updatePeer
  deletePeer := deletePeer
  updateRoutePrefix _ := perform .other
  deleteRoutePrefix _ := perform .other
  addExclusionRoute _ := perform .other
  deleteExclusionRoute _ := perform .other
  excludeLocalNetworks := excludeLocalNetworks
  updateResolvers _ := perform .other
  restoreResolvers := perform .other
  run _ _ := pure true
  activationFailure := perform .disableKillSwitch
  qAssert _ := pure true

/-- The state of the daemon with the system around it. -/
abbrev World := Sys Daemon.State WindowsState

/-- A request of the client with the replies of the system to its calls. -/
abbrev Event := Daemon.Request × List WindowsReply

/-- The result of a request, and the state after it. -/
def serve (s : World) (e : Event) : Bool × World :=
  let r := Prog.run (exec host q) (e.1.prog utils q) e.2 s
  (r.1, r.2.2)

/-- The state after a request. -/
def step (s : World) (e : Event) : World := (serve host q s e).2

/-- The daemon when it starts. `KillSwitch::init` blocks everything if the kill switch is strict. -/
def start : World :=
  ⟨.init, false, if host.strict then after (disableAllTraffic host always) create else create⟩

end WindowsDaemon

end Dopamine.Windows
