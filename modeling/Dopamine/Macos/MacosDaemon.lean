import Dopamine.Daemon.Rules
import Dopamine.Macos.DnsUtils
import Dopamine.Trace.Runs

/-!
# The daemon on macOS

What `WireguardUtilsMacos`, `MacosRouteMonitor` and `DnsUtilsMacos` do to the routes around the
tunnel and to the resolvers. The route monitor exists from the moment the interface has its name
until the interface is deleted, and takes its exclusion routes with it.

A call that touches neither is `Call.other`, whose result is the reply. The requests of the daemon
are executed one after another here.
-/

namespace Dopamine.Macos

open Prog List

/-- The calls of the daemon. -/
inductive Call where
  | other
  | interfaceExists
  | addInterface
  | deleteInterface
  | updatePeer (config : InterfaceConfig)
  | deletePeer (config : InterfaceConfig)
  | addExclusionRoute (ip : IPAddress)
  | deleteExclusionRoute (ip : IPAddress)
  | updateResolvers (resolvers : List HostAddress)
  | restoreResolvers
  | qAssert (holds : Bool)

/-- What the system answers to a call. -/
structure Reply where
  /-- the call succeeds, as far as the system is concerned -/
  ok : Bool
  /-- of `addInterface`: the tunnel process starts in time -/
  started : Bool
  /-- of `addInterface`: the name of the interface can be read -/
  named : Bool
deriving DecidableEq

instance : Inhabited Reply := ⟨⟨true, true, true⟩⟩

/-- The part of the system the calls change. -/
structure MacosState where
  /-- the tunnel process runs -/
  running : Bool
  /-- `m_rtmonitor`, with its `m_exclusionRoutes` -/
  monitor : Option (List IPAddress)
  dns : DnsState
  /-- every condition of `Q_ASSERT` has held so far -/
  asserted : Bool

namespace MacosRouteMonitor

/-- A route that exists already is refused. A new one is remembered, also when the system refuses
it. -/
def addExclusionRoute (ip : IPAddress) (ok : Bool) (routes : List IPAddress) :
    Bool × List IPAddress :=
  if ip ∈ routes then (false, routes) else (ok, routes ++ [ip])

def deleteExclusionRoute (ip : IPAddress) (ok : Bool) (routes : List IPAddress) :
    Bool × List IPAddress :=
  (ok && decide (ip.address ≠ .null), routes.filter (· ≠ ip))

end MacosRouteMonitor

namespace MacosDaemon

variable (q : Platform) (config : InterfaceConfig)

/-- The addresses of a server. -/
def endpoints : List IPAddress :=
  ([config.serverIpv4AddrIn, config.serverIpv6AddrIn].filter (· ≠ "")).map (IPAddress.ofString q)

/-- The addresses of a server that `updatePeer` routes around the tunnel: none of an exit server. -/
def serverRoutes : List IPAddress :=
  if config.hopType = .MultiHopExit then [] else endpoints q config

/-- Whether the system takes a route does not matter here. -/
def addServerRoutes (routes : List IPAddress) : List IPAddress :=
  (serverRoutes q config).foldl
    (fun routes ip => (MacosRouteMonitor.addExclusionRoute ip true routes).2) routes

def deleteServerRoutes (routes : List IPAddress) : List IPAddress :=
  (serverRoutes q config).foldl
    (fun routes ip => (MacosRouteMonitor.deleteExclusionRoute ip true routes).2) routes

variable {q : Platform} {config : InterfaceConfig} {routes : List IPAddress} {ip : IPAddress}

theorem mem_addServerRoutes :
    ip ∈ addServerRoutes q config routes ↔ ip ∈ routes ∨ ip ∈ serverRoutes q config := by
  unfold addServerRoutes
  induction serverRoutes q config generalizing routes with
  | nil => simp
  | cons a l ih =>
    rw [foldl_cons, ih, mem_cons]
    -- a route that is there already is refused
    by_cases ha : a ∈ routes
    · rw [show (MacosRouteMonitor.addExclusionRoute a true routes).2 = routes by
        simp [MacosRouteMonitor.addExclusionRoute, ha]]
      constructor
      · rintro (h | h)
        · exact .inl h
        · exact .inr (.inr h)
      · rintro (h | rfl | h)
        · exact .inl h
        · exact .inl ha
        · exact .inr h
    · rw [show (MacosRouteMonitor.addExclusionRoute a true routes).2 = routes ++ [a] by
        simp [MacosRouteMonitor.addExclusionRoute, ha], mem_append, mem_singleton,
        or_assoc]

theorem mem_deleteServerRoutes :
    ip ∈ deleteServerRoutes q config routes ↔ ip ∈ routes ∧ ip ∉ serverRoutes q config := by
  refine (mem_foldl_filter fun ip (a : IPAddress) => decide (a ≠ ip)).trans ?_
  simp only [decide_eq_true_eq, ne_eq, forall_mem_ne]

/-- Change the routes of the monitor, if there is one. -/
def onMonitor (f : List IPAddress → Bool × List IPAddress) (s : MacosState) : Bool × MacosState :=
  ((s.monitor.map fun routes => (f routes).1).getD false,
    { s with monitor := s.monitor.map fun routes => (f routes).2 })

/-- What the calls do. -/
def exec (q : Platform) : Call → Reply → MacosState → Bool × MacosState
  | .other, r, s => (r.ok, s)
  | .interfaceExists, _, s => (s.running, s)
  | .addInterface, r, s =>
      -- a process that does not come up or has no name is killed
      let created := !s.running && r.started && r.named
      (created && r.ok,
        { s with
          running := s.running || created
          monitor := if created then some [] else s.monitor })
  | .deleteInterface, _, s => (s.running, { s with running := false, monitor := none })
  | .updatePeer config, r, s =>
      (r.ok, { s with monitor := s.monitor.map (addServerRoutes q config) })
  | .deletePeer config, r, s =>
      (r.ok, { s with monitor := s.monitor.map (deleteServerRoutes q config) })
  | .addExclusionRoute ip, r, s => onMonitor (MacosRouteMonitor.addExclusionRoute ip r.ok) s
  | .deleteExclusionRoute ip, r, s => onMonitor (MacosRouteMonitor.deleteExclusionRoute ip r.ok) s
  | .updateResolvers resolvers, r, s =>
      -- without a list of the services nothing is changed
      (r.ok,
        { s with dns := if r.ok then DnsUtilsMacos.updateResolvers q resolvers s.dns else s.dns })
  | .restoreResolvers, _, s => (true, { s with dns := DnsUtilsMacos.restoreResolvers s.dns })
  | .qAssert holds, _, s => (true, { s with asserted := s.asserted && holds })

/-- What macOS provides. `run` is not overridden and nothing is connected to `activationFailure`. -/
def utils : Daemon.Utils Call where
  prepareActivation _ := pure true
  interfaceExists := perform .interfaceExists
  addInterface _ := perform .addInterface
  deleteInterface := perform .deleteInterface
  addInterfaceIPs _ := perform .other
  setMTUAndUp _ := perform .other
  updatePeer config := perform (.updatePeer config)
  deletePeer config := perform (.deletePeer config)
  updateRoutePrefix _ := perform .other
  deleteRoutePrefix _ := perform .other
  addExclusionRoute ip := perform (.addExclusionRoute ip)
  deleteExclusionRoute ip := perform (.deleteExclusionRoute ip)
  excludeLocalNetworks _ := perform .other
  updateResolvers resolvers := perform (.updateResolvers resolvers)
  restoreResolvers := perform .restoreResolvers
  run _ _ := pure true
  activationFailure := pure true
  qAssert holds := perform (.qAssert holds)

/-- The state of the daemon with the system around it. -/
abbrev World := Sys Daemon.State MacosState

/-- A request of the client with the replies of the system to its calls. -/
abbrev Event := Daemon.Request × List Reply

/-- The state after a request. -/
def step (q : Platform) (s : World) (e : Event) : World :=
  (run (exec q) (e.1.prog utils q) e.2 s).2.2

/-- The daemon when it starts, on a system with these resolvers. -/
def init (dns : DnsState) : World := ⟨.init, ⟨false, none, dns, true⟩⟩

end MacosDaemon

end Dopamine.Macos
