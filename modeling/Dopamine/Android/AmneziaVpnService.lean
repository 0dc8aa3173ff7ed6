import Dopamine.Trace.Runs

/-!
# The requests to the service on Android

`AmneziaVpnService` of `client/android/src/org/amnezia/vpn/AmneziaVpnService.kt`: the requests to
connect, to disconnect and to reconnect, and the jobs they launch. Requests are handled on the main
thread, one step each. A job runs beside it and beside other jobs, so that every access to what they
share is a step of its own.

The protocols are those of `Wireguard.kt`, `Awg.kt` and `Xray.kt`. Starting a tunnel, stopping it
and reading the last handshake are one step each. What a status job has read it stores in a later
step, even if it is cancelled in between. A job that is cancelled just before it reads still does
so.

`last` is the config of the last request of the user, if this was to connect. It is not in the
source. Configs are of any type; what matters is the protocol that is read from one.
-/

namespace Dopamine.Android

inductive ProtocolState where
  | disconnected
  | connected
  | connecting
  | disconnecting
  | reconnecting
  | unknown
deriving DecidableEq

inductive VpnProto where
  | wireguard
  | awg
  | xray
  | ssxray
deriving DecidableEq

/-- The objects that `createProtocol` makes. There is one for both Xray protocols. -/
inductive ProtocolObject where
  | wireguard
  | awg
  | xray
deriving DecidableEq

def VpnProto.protocol : VpnProto → ProtocolObject
  | .wireguard => .wireguard
  | .awg => .awg
  | .xray => .xray
  | .ssxray => .xray

/-- What a protocol keeps: the config of its tunnel if this is up (`tunnelHandle`), the config for
reconnecting (`config`) and whether `statusJob` runs for WireGuard, and `isRunning` for Xray.
`cancelledStatus` counts the status jobs that were cancelled and have not ended. -/
structure ProtocolTunnel (κ : Type) where
  isInitialized : Bool
  running : Option κ
  config : Option κ
  statusJob : Bool
  cancelledStatus : ℕ
  isRunning : Bool
deriving DecidableEq

/-- `statusJob?.cancel()`. -/
def ProtocolTunnel.cancelStatus {κ : Type} (t : ProtocolTunnel κ) : ProtocolTunnel κ :=
  { t with statusJob := false, cancelledStatus := t.cancelledStatus + t.statusJob.toNat }

/-- What a job does next. A config belongs to the request that the job was launched for. -/
inductive JobTask (κ : Type) where
  -- the job of `connectToVpn`
  | joinDisconnection (config : κ)
  | awaitDisconnection (config : κ) (job : ℕ)
  | clearDisconnection (config : κ)
  | startVpn (config : κ)
  | saveStart (protocol : ProtocolObject) (config : κ)
  -- the job of `reconnect`
  | reconnectVpn
  -- the job of `disconnect`
  | cancelConnection
  | awaitConnection (job : ℕ)
  | clearConnection
  | stopVpn
  | awaitDisconnected
  | readPending
  | clearPending (config : κ)
  | connectPending (config : κ)
  | leave
  | done
deriving DecidableEq

/-- The task is one at which a cancelled job ends. -/
def JobTask.suspends {κ : Type} : JobTask κ → Bool
  | .joinDisconnection _ | .awaitDisconnection _ _ | .reconnectVpn | .cancelConnection
  | .awaitConnection _ | .awaitDisconnected | .connectPending _ => true
  | _ => false

/-- The job has ended. -/
def JobTask.isDone {κ : Type} : JobTask κ → Bool
  | .done => true
  | _ => false

/-- The job waits for the tunnel to go down. -/
def JobTask.awaitsDisconnected {κ : Type} : JobTask κ → Bool
  | .awaitDisconnected => true
  | _ => false

/-- A coroutine, by what it does next. -/
structure Job (κ : Type) where
  task : JobTask κ
  cancelled : Bool
deriving DecidableEq

/-- How starting a tunnel ends. Reconnecting can fail before and after the old tunnel is turned
off. -/
inductive StartOutcome where
  | started
  | failed
  | turnedOff
deriving DecidableEq

/-- The service. `reports` are the states that status jobs will store, and `stopping` says that
`stopService` was called. -/
structure AmneziaVpnService (κ : Type) where
  protocolState : ProtocolState
  vpnProto : Option VpnProto
  pendingVpnConfig : Option κ
  connectionJob : Option ℕ
  disconnectionJob : Option ℕ
  jobs : List (Job κ)
  tunnels : ProtocolObject → ProtocolTunnel κ
  reports : List ProtocolState
  isServiceBound : Bool
  stopping : Bool
  /-- The config that is kept in the preferences. -/
  lastConf : κ
  last : Option κ

/-- What happens. `granted` says that the permission for a tunnel is there. -/
inductive ServiceEvent (κ : Type) where
  /-- A request to connect, with a config or with the one that is kept. -/
  | connect (vpnConfig : Option κ) (granted : Bool)
  | disconnect
  | reconnect
  /-- The next step of a job. -/
  | run (job : ℕ) (outcome : StartOutcome) (granted : Bool)
  /-- The time for disconnecting is over. -/
  | disconnectTimeout (job : ℕ)
  /-- A status job reads the last handshake, and there was one. -/
  | readHandshake (protocol : ProtocolObject)
  /-- A status job that was cancelled ends, and may read the last handshake before. -/
  | endStatus (protocol : ProtocolObject) (reads : Bool)
  /-- A status job stores the first state that was read. -/
  | report
  /-- The handler of protocol states gets the current one. -/
  | handleState
  /-- The service is stopped, or its process is killed. -/
  | stopped

/-- The event is a request to connect. -/
def ServiceEvent.isConnect {κ : Type} : ServiceEvent κ → Bool
  | .connect _ _ => true
  | _ => false

namespace AmneziaVpnService

variable {κ : Type}

/-- A tunnel that was never up. -/
def noTunnel : ProtocolTunnel κ := ⟨false, none, none, false, 0, false⟩

/-- A process that was just started. -/
def fresh (isServiceBound : Bool) (lastConf : κ) (last : Option κ) : AmneziaVpnService κ where
  protocolState := .unknown
  vpnProto := none
  pendingVpnConfig := none
  connectionJob := none
  disconnectionJob := none
  jobs := []
  tunnels := fun _ => noTunnel
  reports := []
  isServiceBound := isServiceBound
  stopping := false
  lastConf := lastConf
  last := last

section

variable (s : AmneziaVpnService κ)

/-- The process ends and is started again. -/
def restart : AmneziaVpnService κ := fresh s.isServiceBound s.lastConf s.last

/-- The job has a task with the property. -/
def hasTask (job : ℕ) (p : JobTask κ → Bool) : Bool := (s.jobs[job]?).any fun j => p j.task

/-- A job goes on to a task. -/
def goTo (job : ℕ) (t : JobTask κ) : AmneziaVpnService κ :=
  { s with jobs := s.jobs.modify job fun j => { j with task := t } }

/-- `cancel`, of a job that may be missing. -/
def cancel : Option ℕ → AmneziaVpnService κ
  | none => s
  | some job => { s with jobs := s.jobs.modify job fun j => { j with cancelled := true } }

/-- A job is launched. -/
def launch (t : JobTask κ) : AmneziaVpnService κ := { s with jobs := s.jobs ++ [⟨t, false⟩] }

def setTunnel (o : ProtocolObject) (f : ProtocolTunnel κ → ProtocolTunnel κ) :
    AmneziaVpnService κ :=
  { s with tunnels := Function.update s.tunnels o (f (s.tunnels o)) }

/-- `connectionExceptionHandler`. -/
def handleException : AmneziaVpnService κ :=
  let s := (s.cancel s.connectionJob).cancel s.disconnectionJob
  { s with connectionJob := none, disconnectionJob := none, protocolState := .disconnected }

/-! ## Requests -/

def disconnect : AmneziaVpnService κ :=
  if s.protocolState = .unknown ∨ s.protocolState = .disconnected ∨
      s.protocolState = .disconnecting then s
  else
    { s.launch .cancelConnection with
      protocolState := .disconnecting
      disconnectionJob := some s.jobs.length }

end

section

variable (proto : κ → Option VpnProto) (s : AmneziaVpnService κ)

/-- `connectToVpn`. There is no protocol if the config cannot be read. -/
def connectToVpn (vpnConfig : κ) (granted : Bool) : AmneziaVpnService κ :=
  if s.protocolState = .connected ∨ s.protocolState = .connecting then
    { s with pendingVpnConfig := some vpnConfig }.disconnect
  else
    match proto vpnConfig with
    | none => { s with protocolState := .disconnected }
    | some p =>
        let s := { s with vpnProto := some p, protocolState := .connecting }
        if granted then
          { s.launch (.joinDisconnection vpnConfig) with connectionJob := some s.jobs.length }
        else { s with protocolState := .disconnected }

def connect (vpnConfig : Option κ) (granted : Bool) : AmneziaVpnService κ :=
  let config := vpnConfig.getD s.lastConf
  { s with lastConf := config, last := some config }.connectToVpn proto config granted

def reconnect : AmneziaVpnService κ :=
  if s.protocolState = .connected then
    { s.launch .reconnectVpn with
      protocolState := .reconnecting
      connectionJob := some s.jobs.length }
  else s

/-! ## The steps of a job -/

/-- `initialize`. The scope of the status job is cancelled. -/
def initializeProtocol (o : ProtocolObject) : AmneziaVpnService κ :=
  s.setTunnel o fun t => { t.cancelStatus with isInitialized := true }

/-- `startVpn` of a protocol, up to what is stored at the end. A tunnel that is up is left as it
is. -/
def startTunnel (job : ℕ) (o : ProtocolObject) (config : κ) : AmneziaVpnService κ :=
  if o = .xray then
    if (s.tunnels o).isRunning then s.goTo job .done
    else
      { (s.setTunnel o fun t => { t with running := some config }).goTo job (.saveStart o config)
        with protocolState := .connected }
  else
    (s.setTunnel o fun t =>
      if t.running.isNone then { t with running := some config, statusJob := true } else t).goTo
      job (.saveStart o config)

/-- `stopVpn` of a protocol. For WireGuard nothing happens if the tunnel is down already. For Xray
the state is not there yet before `initialize`, which ends the process. -/
def stopTunnel (o : ProtocolObject) : AmneziaVpnService κ :=
  if o = .xray ∧ (s.tunnels o).isInitialized = false then s.restart
  else if o ≠ .xray ∧ (s.tunnels o).running.isNone then s
  else
    { s.setTunnel o fun t => { t.cancelStatus with running := none, isRunning := false } with
      protocolState := .disconnected }

/-- `reconnectVpn` of a protocol, and the end of the job. -/
def reconnectTunnel (job : ℕ) (o : ProtocolObject) (outcome : StartOutcome) : AmneziaVpnService κ :=
  let s := s.goTo job .done
  if o = .xray then
    if (s.tunnels o).isInitialized then { s with protocolState := .connected } else s.restart
  else
    match outcome, (s.tunnels o).config with
    | .started, some config =>
        s.setTunnel o fun t => { t.cancelStatus with running := some config, statusJob := true }
    | .turnedOff, some _ =>
        (s.setTunnel o fun t => { t.cancelStatus with running := none }).handleException
    | _, _ => s.handleException

/-- A step of a job. A job that waits stays where it is. -/
def runTask (job : ℕ) (outcome : StartOutcome) (granted : Bool) : JobTask κ → AmneziaVpnService κ
  | .joinDisconnection config =>
      match s.disconnectionJob with
      | none => s.goTo job (.clearDisconnection config)
      | some other => s.goTo job (.awaitDisconnection config other)
  | .awaitDisconnection config other =>
      if s.hasTask other JobTask.isDone then s.goTo job (.clearDisconnection config) else s
  | .clearDisconnection config =>
      { s.goTo job (.startVpn config) with disconnectionJob := none }
  | .startVpn config =>
      match s.vpnProto with
      | none => s.goTo job .done
      | some p =>
          let s := s.initializeProtocol p.protocol
          if outcome = .started then s.startTunnel job p.protocol config
          else (s.goTo job .done).handleException
  | .saveStart o config =>
      (s.setTunnel o fun t =>
        if o = .xray then { t with isRunning := true } else { t with config := some config }).goTo
        job .done
  | .reconnectVpn =>
      match s.vpnProto with
      | none => s.goTo job .done
      | some p => s.reconnectTunnel job p.protocol outcome
  | .cancelConnection =>
      match s.connectionJob with
      | none => s.goTo job .clearConnection
      | some other => (s.cancel (some other)).goTo job (.awaitConnection other)
  | .awaitConnection other =>
      if s.hasTask other JobTask.isDone then s.goTo job .clearConnection else s
  | .clearConnection => { s.goTo job .stopVpn with connectionJob := none }
  | .stopVpn =>
      match s.vpnProto with
      | none => s.goTo job .awaitDisconnected
      | some p => (s.stopTunnel p.protocol).goTo job .awaitDisconnected
  | .awaitDisconnected =>
      if s.protocolState = .disconnected then s.goTo job .readPending else s
  | .readPending =>
      match s.pendingVpnConfig with
      | none => s.goTo job .done
      | some config => s.goTo job (.clearPending config)
  | .clearPending config => { s.goTo job (.connectPending config) with pendingVpnConfig := none }
  | .connectPending config => (s.goTo job .leave).connectToVpn proto config granted
  | .leave => s.goTo job .done
  | .done => s

/-- A step of a job, or its end if it was cancelled. -/
def runJob (job : ℕ) (outcome : StartOutcome) (granted : Bool) : AmneziaVpnService κ :=
  match s.jobs[job]? with
  | none => s
  | some j =>
      if j.cancelled && j.task.suspends then s.goTo job .done
      else s.runTask proto job outcome granted j.task

/-- What happens next. -/
def step : ServiceEvent κ → AmneziaVpnService κ
  | .connect vpnConfig granted => s.connect proto vpnConfig granted
  | .disconnect => { s with last := none }.disconnect
  | .reconnect => s.reconnect
  | .run job outcome granted => s.runJob proto job outcome granted
  | .disconnectTimeout job =>
      if s.hasTask job JobTask.awaitsDisconnected ∧ s.protocolState ≠ .disconnected then
        { s.goTo job .readPending with stopping := true }
      else s
  | .readHandshake o =>
      if (s.tunnels o).statusJob then
        { s.setTunnel o fun t => { t with statusJob := false } with
          reports := s.reports ++ [.connected] }
      else s
  | .endStatus o reads =>
      if (s.tunnels o).cancelledStatus = 0 then s
      else
        let s' := s.setTunnel o fun t => { t with cancelledStatus := t.cancelledStatus - 1 }
        let state : ProtocolState :=
          if (s.tunnels o).running.isNone then .disconnected else .connected
        if reads then { s' with reports := s.reports ++ [state] } else s'
  | .report =>
      match s.reports with
      | [] => s
      | state :: reports => { s with protocolState := state, reports := reports }
  | .handleState =>
      if s.protocolState = .disconnected ∧ s.isServiceBound = false then { s with stopping := true }
      else s
  | .stopped => if s.stopping then s.restart else s

end

/-! ## The last request -/

/-- No job is left. -/
def Settled (s : AmneziaVpnService κ) : Prop := ∀ j ∈ s.jobs, j.task.isDone = true

/-- The tunnels that are up are those of the last request of the user: the one of its config if it
was to connect, and none else. -/
def Agrees (proto : κ → Option VpnProto) (s : AmneziaVpnService κ) : Prop :=
  ∀ o config, (s.tunnels o).running = some config ↔
    s.last = some config ∧ (proto config).map VpnProto.protocol = some o

end AmneziaVpnService

end Dopamine.Android
