import Dopamine.Client.SplitTunneling
import Dopamine.Client.VpnConnection

/-!
# Connecting and disconnecting on desktop

`VpnConnection::connectToVpn` and `VpnConnection::disconnectFromVpn` of `client/vpnconnection.cpp`.
The first one looks up the names of the enabled presets, one bucket after another, and runs an event
loop for each bucket. Further calls are delivered in these loops: they run to their end, or to a
loop of their own, before the call that waits goes on. The calls share `m_vpnConfiguration` and
`m_vpnProtocol`.

A call that waits goes on with its own container and its own sites, whatever was asked for in the
meantime (`Calls.outcome`). So the last request wins if it was delivered in no such loop, and else
only if the outermost call wants the same (`last_request_wins_iff`).

What the calls do is what the connection with its routes does (`VpnConnection`) with the events that
they stand for (`Follows.run`).

The settings do not change. A protocol that is replaced is stopped by its destructor.
-/

namespace Dopamine.Client

open QJsonObject List Option Prod

/-! ## What is written before and after the loops -/

section Config

variable (q : Platform) (resolve : String → List Address) (s : TunnelSettings)

/-- What `appendSplitTunnelingConfig` writes before it looks up names. -/
def announceSites (config : QJsonObject) : QJsonObject :=
  let (mode, sites) := manualSites q s config
  (config.insert "splitTunnelType" (some (.double mode.toInt))).insert "splitTunnelSites"
    (stringArray sites)

/-- What `appendSplitTunnelingConfig` writes after it has looked up names: the sites to include and
to exclude, and what does not depend on the config. -/
def writeSites (sites : List String × List String) (config : QJsonObject) : QJsonObject :=
  let (appsMode, apps) := s.apps
  let config := config.insert "splitTunnelIncludeSites" (stringArray sites.1)
  let config := config.insert "splitTunnelExcludeSites" (stringArray sites.2)
  let config := config.insert "localSubnetExclusions" (stringArray s.localSubnetExclusions)
  let config := config.insert "appSplitTunnelType" (some (.double appsMode.toInt))
  config.insert "splitTunnelApps" (stringArray apps)

/-- What is written is the mode, and the sites the presets give. -/
theorem writeSplitTunneling_eq (config : QJsonObject) :
    writeSplitTunneling q resolve s config =
      writeSites s (splitSites q resolve s config) (announceSites q s config) := rfl

/-- How many event loops are run: one for each bucket with names. -/
def lookupLoops (config : QJsonObject) : ℕ :=
  if s.isSitesSplitTunnelingEnabled && allowsSites config && s.splitPresetsEnabled ≠ [] then
    ([.followMode, .alwaysDirect, .alwaysVpn] : List PresetKind).countP fun kind =>
      (presetBucket q s.presets s.splitPresetsEnabled kind).hosts ≠ []
  else 0

end Config

section WriteSites

variable (s : TunnelSettings)

/-- What was written by another call is replaced. -/
theorem writeSites_writeSites (sites sites' : List String × List String) (config : QJsonObject) :
    writeSites s sites (writeSites s sites' config) = writeSites s sites config := by
  refine QJsonObject.ext fun key => ?_
  simp only [writeSites, value_insert]
  split_ifs <;> rfl

theorem stringArray_injective {l l' : List String} (h : stringArray l = stringArray l') :
    l = l' := by
  have harray : l.map Json.string = l'.map Json.string := Json.array.inj (some.inj h)
  exact map_injective_iff.mpr (fun _ _ => Json.string.inj) harray

theorem writeSites_inj {sites sites' : List String × List String} {config : QJsonObject} :
    writeSites s sites config = writeSites s sites' config ↔ sites = sites' := by
  refine ⟨fun h => ?_, fun h => by rw [h]⟩
  have hinclude := congrArg (fun o => QJsonObject.value o "splitTunnelIncludeSites") h
  have hexclude := congrArg (fun o => QJsonObject.value o "splitTunnelExcludeSites") h
  simp only [writeSites, value_insert, String.reduceEq, if_true, if_false] at hinclude hexclude
  exact Prod.ext (stringArray_injective hinclude) (stringArray_injective hexclude)

end WriteSites

/-! ## Calls -/

/-- The settings that a connection uses. -/
structure ConnectSettings extends TunnelSettings where
  isKillSwitchEnabled : Bool
  isRouteLanThroughVpn : Bool
  allowedDnsServers : List String

/-- `QVariant(b).toString()`. -/
def boolText (b : Bool) : String := if b then "true" else "false"

def appendKillSwitchConfig (settings : ConnectSettings) (config : QJsonObject) : QJsonObject :=
  let config := config.insertText "killSwitchOption" (boolText settings.isKillSwitchEnabled)
  let config := config.insertText "routeLanThroughVpn" (boolText settings.isRouteLanThroughVpn)
  config.insert "allowedDnsServers" (stringArray settings.allowedDnsServers)

/-- The arguments of `connectToVpn`, and what its lookups find. -/
structure ConnectRequest where
  serverIndex : ℤ
  container : DockerContainer
  vpnConfiguration : QJsonObject
  resolve : String → List Address

inductive CallRequest where
  | connectToVpn (request : ConnectRequest)
  | disconnectFromVpn

/-- What happens in the thread of the connection: a call, the end of the innermost event loop, or a
callback of a protocol. -/
inductive CallEvent where
  | request (request : CallRequest)
  | loopQuit
  | connectionStateChanged (state : ConnectionState)

/-- A protocol on which `start` was called. -/
structure StartedProtocol where
  container : DockerContainer
  configuration : QJsonObject
deriving DecidableEq

/-- A call of `connectToVpn` that waits in an event loop, with what it keeps for itself. `loops`
are the loops that are left after this one. -/
structure WaitingConnect where
  container : DockerContainer
  sites : List String × List String
  loops : ℕ
deriving DecidableEq

/-- The connection, with the calls that wait, innermost first. -/
structure Calls where
  connectionState : ConnectionState
  vpnConfiguration : QJsonObject
  vpnProtocol : Option StartedProtocol
  waiting : List WaitingConnect

/-- `VpnProtocol::factory` on desktop makes a protocol. -/
def DockerContainer.hasProtocol : DockerContainer → Bool
  | .wireGuard | .awg2 | .awg | .xray | .ssXray => true
  | _ => false

/-- The protocol that is made and started, if there is one. -/
def startedProtocol (container : DockerContainer) (config : QJsonObject) : Option StartedProtocol :=
  if container.hasProtocol then some ⟨container, config⟩ else none

/-- The config that the request starts with. -/
def ConnectRequest.base (settings : ConnectSettings) (r : ConnectRequest) : QJsonObject :=
  appendKillSwitchConfig settings
    (r.vpnConfiguration.insert "serverIndex" (some (.double r.serverIndex)))

def ConnectRequest.configuration (q : Platform) (settings : ConnectSettings) (r : ConnectRequest) :
    Option QJsonObject :=
  appendSplitTunnelingConfig q r.resolve settings.toTunnelSettings (r.base settings)

namespace Calls

/-- Before any call. -/
def start : Calls := ⟨.unknown, .empty, none, []⟩

/-- `setConnectionState`, without the routes. -/
def setConnectionState (state : ConnectionState) (c : Calls) : Calls :=
  if state = .disconnected ∧ c.connectionState = .reconnecting then c
  else { c with connectionState := state }

section

variable (q : Platform) (settings : ConnectSettings)

/-- The rest of `connectToVpn` after the loops. -/
def complete (call : WaitingConnect) (c : Calls) : Calls :=
  let config := writeSites settings.toTunnelSettings call.sites c.vpnConfiguration
  let protocol := startedProtocol call.container config
  let c := { c with vpnConfiguration := config, vpnProtocol := protocol }
  if protocol = none then c.setConnectionState .error else c

/-- A call waits in its next loop, or goes on to its end. -/
def goOn (call : WaitingConnect) (c : Calls) : Calls :=
  match call.loops with
  | 0 => c.complete settings call
  | loops + 1 => { c with waiting := { call with loops := loops } :: c.waiting }

/-- `connectToVpn`. The call ends the program if the native config has a line that cannot be
read. -/
def connectToVpn (r : ConnectRequest) (c : Calls) : Option Calls :=
  (withNativeConfig (r.base settings)).map fun config =>
    let s := settings.toTunnelSettings
    let c := c.setConnectionState .connecting
    let c := { c with vpnConfiguration := announceSites q s config, vpnProtocol := none }
    c.goOn settings ⟨r.container, splitSites q r.resolve s config, lookupLoops q s config⟩

variable (c : Calls)

def disconnectFromVpn : Calls :=
  match c.vpnProtocol with
  | none => c.setConnectionState .disconnected
  | some _ => { c.setConnectionState .disconnecting with vpnProtocol := none }

/-- The innermost call goes on. -/
def loopQuit : Calls :=
  match c.waiting with
  | [] => c
  | call :: waiting => { c with waiting := waiting }.goOn settings call

/-- What an event does. There is no next state if the program ends. -/
def step : CallEvent → Option Calls
  | .request (.connectToVpn r) => c.connectToVpn q settings r
  | .request .disconnectFromVpn => some c.disconnectFromVpn
  | .loopQuit => some (c.loopQuit settings)
  | .connectionStateChanged state => some (c.setConnectionState state)

/-- What events do. -/
def run (es : List CallEvent) : Option Calls := es.foldlM (step q settings) c

end

/-! ## The connection with its routes -/

section Follows

variable {q : Platform} (settings : ConnectSettings) {c c' : Calls} {s : VpnConnection}

/-- The connection with routes is in the same state, and it has a protocol if one was started. -/
structure Follows (c : Calls) (s : VpnConnection) : Prop where
  state : s.connectionState = c.connectionState
  protocol : s.vpnProtocol = none ↔ c.vpnProtocol = none

/-- A call that goes on may start its protocol. -/
def GoesOn (es : List VpnConnection.Event) : Prop := es = [] ∨ ∃ p, es = [.startProtocol p]

/-- The events that an event of the thread stands for. -/
def StandsFor : CallEvent → List VpnConnection.Event → Prop
  | .request (.connectToVpn _), es => ∃ rest, GoesOn rest ∧ es = .connectToVpn "" "" "" :: rest
  | .request .disconnectFromVpn, es => es = [.disconnectFromVpn]
  | .loopQuit, es => GoesOn es
  | .connectionStateChanged state, es => es = [.report state]

open VpnConnection in
theorem frame_onConnectionStateChanged (s : VpnConnection) (state : ConnectionState) :
    (s.onConnectionStateChanged q state).connectionState = s.connectionState ∧
      (s.onConnectionStateChanged q state).vpnProtocol = s.vpnProtocol := by
  unfold onConnectionStateChanged onConnected setupRoutes setupSplit addSitesRoutes routeAll
  grind [call, waitForRefresh]

theorem Follows.setConnectionState (h : Follows c s) (state : ConnectionState) :
    Follows (c.setConnectionState state) (s.setConnectionState q state) := by
  obtain ⟨hstate, hprotocol⟩ := frame_onConnectionStateChanged (q := q) s state
  simp only [Calls.setConnectionState, VpnConnection.setConnectionState, hstate, h.state]
  split_ifs
  · exact ⟨hstate.trans h.state, hprotocol ▸ h.protocol⟩
  · exact ⟨rfl, hprotocol ▸ h.protocol⟩

theorem Follows.goOn (h : Follows c s) (call : WaitingConnect) :
    ∃ es, GoesOn es ∧ Follows (c.goOn settings call) (s.run q es) := by
  rw [Calls.goOn]
  cases call.loops with
  | succ loops => exact ⟨[], .inl rfl, h.state, h.protocol⟩
  | zero =>
    simp only [complete]
    set config := writeSites settings.toTunnelSettings call.sites c.vpnConfiguration
    cases startedProtocol call.container config with
    | none =>
      have hnone : Follows { c with vpnConfiguration := config, vpnProtocol := none }
          { s with vpnProtocol := none, sitesTimers := 0 } :=
        ⟨h.state, iff_of_true rfl rfl⟩
      exact ⟨[.startProtocol none], .inr ⟨_, rfl⟩, hnone.setConnectionState .error⟩
    | some p =>
      exact ⟨[.startProtocol (some ⟨"", ""⟩)], .inr ⟨_, rfl⟩, h.state,
        iff_of_false (some_ne_none _) (some_ne_none _)⟩

theorem Follows.step (h : Follows c s) {e : CallEvent} (he : step q settings c e = some c') :
    ∃ es, StandsFor e es ∧ Follows c' (s.run q es) := by
  cases e with
  | request request =>
    cases request with
    | connectToVpn r =>
      obtain ⟨config, -, rfl⟩ := map_eq_some_iff.mp he
      have hasked : Follows c { s with remoteAddress := "" } := ⟨h.state, h.protocol⟩
      have hbegun : Follows { c.setConnectionState .connecting with
          vpnConfiguration := announceSites q settings.toTunnelSettings config
          vpnProtocol := none } (s.step q (.connectToVpn "" "" "")) :=
        ⟨(hasked.setConnectionState (q := q) .connecting).state, iff_of_true rfl rfl⟩
      obtain ⟨es, hgoes, hes⟩ := hbegun.goOn settings _
      exact ⟨_, ⟨es, hgoes, rfl⟩, hes⟩
    | disconnectFromVpn =>
      obtain rfl := some.inj he
      refine ⟨[.disconnectFromVpn], rfl, ?_⟩
      show Follows _ (s.step q .disconnectFromVpn)
      rw [disconnectFromVpn, VpnConnection.step]
      cases hc : c.vpnProtocol with
      | none =>
        rw [if_pos (h.protocol.mpr hc)]
        exact h.setConnectionState .disconnected
      | some p =>
        rw [if_neg (h.protocol.not.mpr (hc ▸ some_ne_none p))]
        exact ⟨(h.setConnectionState (q := q) .disconnecting).state, iff_of_true rfl rfl⟩
  | loopQuit =>
    obtain rfl := some.inj he
    rw [loopQuit]
    cases c.waiting with
    | nil => exact ⟨[], .inl rfl, h⟩
    | cons call waiting =>
      have hpopped : Follows { c with waiting := waiting } s := ⟨h.state, h.protocol⟩
      exact hpopped.goOn settings call
  | connectionStateChanged state =>
    obtain rfl := some.inj he
    exact ⟨[.report state], rfl, h.setConnectionState state⟩

/-- What happens in the thread is what the connection with routes does with the events it stands
for. -/
theorem Follows.run {es : List CallEvent} (h : Follows c s)
    (hrun : run q settings c es = some c') :
    ∃ parts, Forall₂ StandsFor es parts ∧ Follows c' (s.run q parts.flatten) := by
  induction es generalizing c s with
  | nil => exact ⟨[], .nil, some.inj hrun ▸ h⟩
  | cons e es ih =>
    obtain ⟨next, hnext, hrun⟩ := bind_eq_some_iff.mp hrun
    obtain ⟨first, hstands, hfirst⟩ := h.step settings hnext
    obtain ⟨parts, hparts, hrest⟩ := ih hfirst hrun
    refine ⟨first :: parts, .cons hstands hparts, ?_⟩
    rwa [VpnConnection.run, Trace.run, flatten_cons, foldl_append]

end Follows

/-! ## What is started in the end -/

section Outcome

variable {q : Platform} {settings : ConnectSettings}

/-- What is started when all calls have returned, if no more are made: the outermost call that waits
is the last one to start a protocol, with the sites it had and the config that is there. -/
def outcome (settings : ConnectSettings) (c : Calls) : Option StartedProtocol :=
  match c.waiting.getLast? with
  | none => c.vpnProtocol
  | some call =>
      startedProtocol call.container
        (writeSites settings.toTunnelSettings call.sites c.vpnConfiguration)

variable (state : ConnectionState) (call : WaitingConnect) (c : Calls)

@[simp]
theorem setConnectionState_waiting : (c.setConnectionState state).waiting = c.waiting := by
  unfold setConnectionState; split_ifs <;> rfl

@[simp]
theorem setConnectionState_vpnProtocol :
    (c.setConnectionState state).vpnProtocol = c.vpnProtocol := by
  unfold setConnectionState; split_ifs <;> rfl

@[simp]
theorem setConnectionState_vpnConfiguration :
    (c.setConnectionState state).vpnConfiguration = c.vpnConfiguration := by
  unfold setConnectionState; split_ifs <;> rfl

@[simp]
theorem outcome_setConnectionState :
    outcome settings (c.setConnectionState state) = outcome settings c := by
  simp only [outcome, setConnectionState_waiting, setConnectionState_vpnProtocol,
    setConnectionState_vpnConfiguration]

theorem outcome_complete :
    outcome settings (c.complete settings call) =
      outcome settings { c with waiting := call :: c.waiting } := by
  have houtcome : outcome settings (c.complete settings call) =
      outcome settings { c with
        vpnConfiguration := writeSites settings.toTunnelSettings call.sites c.vpnConfiguration
        vpnProtocol := startedProtocol call.container
          (writeSites settings.toTunnelSettings call.sites c.vpnConfiguration) } := by
    unfold complete
    dsimp only
    split_ifs
    · exact outcome_setConnectionState ..
    · rfl
  rw [houtcome]
  -- the calls that wait further out replace what this one has written
  cases hwaiting : c.waiting.getLast? with
  | none =>
    have hnil : c.waiting = [] := getLast?_eq_none_iff.mp hwaiting
    simp only [outcome, hnil, getLast?_nil, getLast?_singleton]
  | some outer =>
    simp only [outcome, getLast?_cons, hwaiting, getD_some, writeSites_writeSites]

theorem outcome_goOn :
    outcome settings (c.goOn settings call) =
      outcome settings { c with waiting := call :: c.waiting } := by
  unfold goOn
  split
  · exact outcome_complete call c
  · cases hwaiting : c.waiting.getLast? with
    | none => simp only [outcome, getLast?_cons, hwaiting, getD_none]
    | some outer => simp only [outcome, getLast?_cons, hwaiting, getD_some]

/-- What is not a request does not change the outcome. -/
theorem outcome_step_of_not_request {c c' : Calls} {e : CallEvent} (he : ∀ r, e ≠ .request r)
    (hstep : step q settings c e = some c') : outcome settings c' = outcome settings c := by
  cases e with
  | request r => exact absurd rfl (he r)
  | connectionStateChanged state =>
    obtain rfl := some.inj hstep
    exact outcome_setConnectionState state c
  | loopQuit =>
    obtain rfl := some.inj hstep
    unfold loopQuit
    split
    · rfl
    · rename_i call waiting hwaiting
      rw [outcome_goOn]
      simp only [outcome, hwaiting]

theorem outcome_run_of_not_request {es : List CallEvent} {c c' : Calls}
    (hes : ∀ e ∈ es, ∀ r, e ≠ .request r) (hrun : run q settings c es = some c') :
    outcome settings c' = outcome settings c := by
  induction es generalizing c with
  | nil =>
    obtain rfl := some.inj hrun
    rfl
  | cons e es ih =>
    obtain ⟨next, hnext, hrest⟩ := bind_eq_some_iff.mp hrun
    rw [ih (fun e' h => hes e' (mem_cons_of_mem _ h)) hrest]
    exact outcome_step_of_not_request (hes e mem_cons_self) hnext

/-- The outcome after a connect: its own protocol, or that of the outermost call that waits, with
the config of the request but the sites of that call. -/
theorem outcome_connectToVpn {c c' : Calls} {r : ConnectRequest}
    (hstep : c.connectToVpn q settings r = some c') :
    ∃ config, withNativeConfig (r.base settings) = some config ∧
      outcome settings c' =
        let s := settings.toTunnelSettings
        match c.waiting.getLast? with
        | none => startedProtocol r.container (writeSplitTunneling q r.resolve s config)
        | some outer =>
            startedProtocol outer.container
              (writeSites s outer.sites (announceSites q s config)) := by
  obtain ⟨config, hconfig, rfl⟩ := map_eq_some_iff.mp hstep
  refine ⟨config, hconfig, ?_⟩
  rw [outcome_goOn]
  cases hwaiting : c.waiting.getLast? with
  | none =>
    simp only [outcome, getLast?_cons, setConnectionState_waiting, hwaiting,
      getD_none, writeSplitTunneling_eq]
  | some outer =>
    simp only [outcome, getLast?_cons, setConnectionState_waiting, hwaiting,
      getD_some]

/-- The outcome after a disconnect: the outermost call that waits starts its protocol. -/
theorem outcome_disconnectFromVpn :
    outcome settings c.disconnectFromVpn =
      match c.waiting.getLast? with
      | none => none
      | some outer =>
          startedProtocol outer.container
            (writeSites settings.toTunnelSettings outer.sites c.vpnConfiguration) := by
  unfold disconnectFromVpn
  cases hwaiting : c.waiting.getLast? with
  | none =>
    split
    · rename_i hprotocol
      rw [outcome_setConnectionState]
      simp only [outcome, hwaiting, hprotocol]
    · simp only [outcome, setConnectionState_waiting, hwaiting]
  | some outer =>
    split
    · rw [outcome_setConnectionState]
      simp only [outcome, hwaiting]
    · simp only [outcome, setConnectionState_waiting, hwaiting,
        setConnectionState_vpnConfiguration]

end Outcome

/-! ## The last request -/

section LastRequest

variable (q : Platform) (settings : ConnectSettings)

/-- What the request asks for is what is started: the protocol of its container with its
configuration, or nothing. -/
def Wins (last : CallRequest) (c : Calls) : Prop :=
  match last with
  | .connectToVpn r => ∃ config, r.configuration q settings = some config ∧
      c.vpnProtocol = some ⟨r.container, config⟩
  | .disconnectFromVpn => c.vpnProtocol = none

/-- The sites that a request includes and excludes. -/
def ConnectRequest.sites (r : ConnectRequest) : Option (List String × List String) :=
  (withNativeConfig (r.base settings)).map (splitSites q r.resolve settings.toTunnelSettings)

/-- A request can win when it is delivered: no call waits, or the outermost one that waits starts
the same. Only containers with a protocol can be started. -/
def Agrees (c : Calls) (last : CallRequest) : Prop :=
  match last, c.waiting.getLast? with
  | .connectToVpn r, none => r.container.hasProtocol = true
  | .connectToVpn r, some outer => r.container.hasProtocol = true ∧
      outer.container = r.container ∧ ConnectRequest.sites q settings r = some outer.sites
  | .disconnectFromVpn, none => True
  | .disconnectFromVpn, some outer => outer.container.hasProtocol = false

end LastRequest

section Last

variable {q : Platform} {settings : ConnectSettings} {container : DockerContainer}
  {config : QJsonObject}

theorem startedProtocol_eq_some {p : StartedProtocol} :
    startedProtocol container config = some p ↔
      container.hasProtocol = true ∧ container = p.container ∧ config = p.configuration := by
  unfold startedProtocol
  split_ifs with h
  · rw [some.injEq]
    refine ⟨fun hp => hp ▸ ⟨h, rfl, rfl⟩, ?_⟩
    rintro ⟨_, hcontainer, hconfig⟩
    rw [hcontainer, hconfig]
  · exact iff_of_false not_false fun hp => h hp.1

theorem startedProtocol_eq_none :
    startedProtocol container config = none ↔ container.hasProtocol = false := by
  unfold startedProtocol
  split_ifs with h
  · exact iff_of_false not_false (Bool.eq_false_iff.not_left.mpr h)
  · exact iff_of_true rfl (Bool.not_eq_true _ ▸ h)

/-- A connect gets what it asked for if the call that is outermost in the end wants the same. -/
theorem outcome_connect_iff {c c' : Calls} {r : ConnectRequest}
    (hstep : c.connectToVpn q settings r = some c') :
    (∃ config, r.configuration q settings = some config ∧
        outcome settings c' = some ⟨r.container, config⟩) ↔
      Agrees q settings c (.connectToVpn r) := by
  obtain ⟨native, hnative, houtcome⟩ := outcome_connectToVpn hstep
  have hconfig : r.configuration q settings =
      some (writeSplitTunneling q r.resolve settings.toTunnelSettings native) := by
    rw [ConnectRequest.configuration, appendSplitTunnelingConfig, hnative, map_some]
  have hsites : ConnectRequest.sites q settings r =
      some (splitSites q r.resolve settings.toTunnelSettings native) := by
    rw [ConnectRequest.sites, hnative, map_some]
  simp only [hconfig, some.injEq, exists_eq_left', houtcome, Agrees]
  cases hwaiting : c.waiting.getLast? with
  | none =>
    simp only [startedProtocol_eq_some, and_true]
  | some outer =>
    simp only [startedProtocol_eq_some, writeSplitTunneling_eq, writeSites_inj, hsites,
      some.injEq]
    constructor <;> rintro ⟨hprotocol, hcontainer, hsame⟩ <;>
      exact ⟨hcontainer ▸ hprotocol, hcontainer, hsame.symm⟩

/-- A disconnect gets what it asked for if no call that waits starts a protocol in the end. -/
theorem outcome_disconnect_iff {c : Calls} :
    outcome settings c.disconnectFromVpn = none ↔ Agrees q settings c .disconnectFromVpn := by
  rw [outcome_disconnectFromVpn]
  simp only [Agrees]
  cases c.waiting.getLast? with
  | none => exact iff_of_true rfl trivial
  | some outer => exact startedProtocol_eq_none

/-- Calls are made in any order and in any of the loops, and all of them have returned. What the
last one asked for is what is started in the end exactly if it was delivered in no loop, or the
outermost call that waited then starts the same: a connect with the same container and the same
sites. -/
theorem last_request_wins_iff {before after : List CallEvent} {last : CallRequest} {c' : Calls}
    (hafter : ∀ e ∈ after, ∀ r, e ≠ .request r)
    (hrun : run q settings start (before ++ .request last :: after) = some c')
    (hreturned : c'.waiting = []) :
    Wins q settings last c' ↔
      ∃ c, run q settings start before = some c ∧ Agrees q settings c last := by
  rw [run, foldlM_append] at hrun
  obtain ⟨c, hbefore, hrun⟩ := bind_eq_some_iff.mp hrun
  obtain ⟨next, hnext, hrun⟩ := bind_eq_some_iff.mp hrun
  have hprotocol : c'.vpnProtocol = outcome settings next := by
    rw [← outcome_run_of_not_request hafter hrun, outcome, hreturned, getLast?_nil]
  have hagrees : (∃ c, run q settings start before = some c ∧ Agrees q settings c last) ↔
      Agrees q settings c last := by
    rw [run, hbefore]
    exact ⟨fun ⟨_, hc, h⟩ => some.inj hc ▸ h, fun h => ⟨c, rfl, h⟩⟩
  rw [hagrees]
  cases last with
  | connectToVpn r =>
    simp only [Wins, hprotocol]
    exact outcome_connect_iff hnext
  | disconnectFromVpn =>
    obtain rfl := some.inj hnext
    simp only [Wins, hprotocol]
    exact outcome_disconnect_iff

end Last

/-! ## A preset with a name -/

/-- A preset with one name is enabled. -/
def newsSettings : ConnectSettings where
  isSitesSplitTunnelingEnabled := true
  routeMode := .vpnAllExceptSites
  vpnSites := fun _ => .empty
  splitPresetsEnabled := ["news"]
  splitPresetsCache :=
    [.object [("domains", .array [.string "news.example"]), ("id", .string "news")]]
  localSubnetExclusions := []
  isAppsSplitTunnelingEnabled := false
  appsRouteMode := .vpnAllApps
  vpnApps := fun _ => []
  isKillSwitchEnabled := true
  isRouteLanThroughVpn := false
  allowedDnsServers := []

/-- A connect with a server and a container, whose names are not found. -/
def newsRequest (serverIndex : ℤ) (container : DockerContainer) : CallRequest :=
  .connectToVpn ⟨serverIndex, container, .empty, fun _ => []⟩

/-- The calls that wait, and the container and the server of the protocol that is started. -/
def view (c : Calls) : ℕ × Option (DockerContainer × Option Json) :=
  (c.waiting.length,
    c.vpnProtocol.map fun p => (p.container, p.configuration.value "serverIndex"))

theorem exists_of_view {es : List CallEvent} {v : ℕ × Option (DockerContainer × Option Json)}
    {P : Calls → Prop} (h : (run .plain newsSettings start es).map view = some v)
    (hP : ∀ c, view c = v → P c) : ∃ c, run .plain newsSettings start es = some c ∧ P c := by
  obtain ⟨c, hrun, hc⟩ := map_eq_some_iff.mp h
  exact ⟨c, hrun, hP c hc⟩

/-- A second connect in the loop of a connect gets its protocol if it has the same container. -/
theorem last_request_wins_nested :
    ∃ c, run .plain newsSettings start [.request (newsRequest 0 .xray),
        .request (newsRequest 1 .xray), .loopQuit, .loopQuit] = some c ∧
      Wins .plain newsSettings (newsRequest 1 .xray) c := by
  refine (exists_of_view (v := (0, some (.xray, some (.double 1)))) (by decide +kernel)
    fun c hc => length_eq_zero_iff.mp (congrArg fst hc)).imp fun c ⟨hrun, hreturned⟩ => ⟨hrun, ?_⟩
  have hafter : ∀ e ∈ [CallEvent.loopQuit, .loopQuit], ∀ r, e ≠ .request r := by simp
  refine (@last_request_wins_iff _ _ [.request (newsRequest 0 .xray)] _ _ _ hafter hrun
    hreturned).mpr ⟨_, rfl, rfl, rfl, ?_⟩
  decide +kernel

/-- A disconnect that is delivered in the loop of a connect is lost: all calls have returned, and
the protocol is started. After a second connect in this loop the container of the first one is
started with the config of the second one. -/
theorem last_request_lost :
    (∃ c, run .plain newsSettings start [.request (newsRequest 0 .xray),
        .request .disconnectFromVpn, .loopQuit] = some c ∧
      c.waiting = [] ∧ ¬ Wins .plain newsSettings .disconnectFromVpn c) ∧
    ∃ c, run .plain newsSettings start [.request (newsRequest 0 .xray),
        .request (newsRequest 1 .awg), .loopQuit, .loopQuit] = some c ∧
      c.waiting = [] ∧ ¬ Wins .plain newsSettings (newsRequest 1 .awg) c := by
  constructor
  · refine exists_of_view (v := (0, some (.xray, some (.double 0)))) (by decide +kernel)
      fun c hc => ⟨length_eq_zero_iff.mp (congrArg fst hc), fun hwins => ?_⟩
    have hprotocol : c.vpnProtocol = none := hwins
    rw [view, hprotocol] at hc
    exact some_ne_none _ (congrArg snd hc).symm
  · refine exists_of_view (v := (0, some (.xray, some (.double 1)))) (by decide +kernel)
      fun c hc => ⟨length_eq_zero_iff.mp (congrArg fst hc), ?_⟩
    rintro ⟨config, -, hprotocol⟩
    rw [view, hprotocol] at hc
    have hcontainer := congrArg fst (some.inj (congrArg snd hc))
    cases hcontainer

end Calls

end Dopamine.Client
